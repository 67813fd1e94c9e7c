import WatchedStore.Proofs.Store.KeyEdits
import WatchedStore.Proofs.Store.Posting

/-! # What edits post

An edit posts its notification to the subscribers of its key, and a run of edits posts one list of
such posts. What a mailbox holds afterwards is a matter of its own posts: with a reader it takes as
many of them as there is room for, and without one it takes none. If no queue is found full, all of
them are taken, whatever other posts come between. What a run posts depends on the nodes of its keys
alone, so the posts about one key come in the same order whether another run comes before or after.
-/

namespace WatchedStore

/-- A notification on its way to a sink. -/
abbrev Post := Sink × Notice

/-- A notification on its way to sinks. -/
def addressed (note : Notice) (sinks : List Sink) : List Post := sinks.map fun sink => (sink, note)

/-- The notifications among posts that go to a mailbox. -/
def meant (slot : Nat) (posts : List Post) : List Notice :=
  posts.filterMap fun post => if post.1.outlet = .mailbox slot then some post.2 else none

section Meant

variable {slot : Nat} {post : Post}

theorem meant_append (slot : Nat) (first second : List Post) :
    meant slot (first ++ second) = meant slot first ++ meant slot second :=
  List.filterMap_append

theorem meant_cons (slot : Nat) (post : Post) (rest : List Post) :
    meant slot (post :: rest) = meant slot [post] ++ meant slot rest :=
  meant_append slot [post] rest

theorem meant_singleton (leads : post.1.outlet = .mailbox slot) : meant slot [post] = [post.2] := by
  simp [meant, leads]

theorem meant_singleton_of_ne (elsewhere : post.1.outlet ≠ .mailbox slot) : meant slot [post] = [] := by
  simp [meant, elsewhere]

end Meant

/-- A mailbox that is handed notifications: with a reader it takes what there is room for. -/
def Mailbox.queue (box : Mailbox) (notes : List Notice) : Mailbox :=
  if box.isOpen then
    { box with queued := box.queued ++ notes.take (box.capacity - box.queued.length) }
  else box

/-- The notifications about a key that wait in a mailbox. -/
def Mailbox.about (box : Mailbox) (key : String) : List Notice :=
  box.queued.filter fun note => note.key = key

namespace Mailbox

@[simp] theorem queue_nil (box : Mailbox) : box.queue [] = box := by
  simp [queue]

@[simp] theorem isOpen_queue (box : Mailbox) (notes : List Notice) :
    (box.queue notes).isOpen = box.isOpen := by
  unfold queue
  split <;> rfl

theorem queue_append (box : Mailbox) (first second : List Notice) :
    box.queue (first ++ second) = (box.queue first).queue second := by
  unfold queue
  by_cases reading : box.isOpen = true
  · have left : box.capacity - (box.queued ++ first.take (box.capacity - box.queued.length)).length =
        box.capacity - box.queued.length - first.length := by
      rw [List.length_append, List.length_take]
      omega
    simp only [reading, ↓reduceIte, left, List.take_append, List.append_assoc]
  · simp only [reading, Bool.false_eq_true, ↓reduceIte]

/-- An offer is one notification handed over. -/
theorem offer_eq_queue (box : Mailbox) (id : SinkId) (note : Notice) :
    (box.offer id note).2 = box.queue [note] := by
  obtain ⟨capacity, queued, reading⟩ := box
  cases reading with
  | false => rfl
  | true =>
    simp only [offer, queue, Bool.not_true, Bool.false_eq_true, ↓reduceIte]
    split
    · next room => rw [List.take_of_length_le (by rw [List.length_singleton]; omega)]
    · next full =>
      have none : capacity - queued.length = 0 := by omega
      rw [none, List.take_zero, List.append_nil]

end Mailbox

namespace Mailboxes

/-- Hands posts over, one after the other. -/
def deliverAll (boxes : Mailboxes) (posts : List Post) : Mailboxes :=
  posts.foldl (fun boxes post => (boxes.deliver post.1 post.2).2) boxes

/-- What is logged when posts are handed over. -/
def logged (boxes : Mailboxes) : List Post → List Warning
  | [] => []
  | (sink, note) :: rest =>
    (match (boxes.deliver sink note).1 with
      | .queued => []
      | .dropped => [.queueFull sink.id note]
      | .refused error => [.subscriberDropped sink.id note.key error]) ++
    logged (boxes.deliver sink note).2 rest

theorem deliverAll_append (boxes : Mailboxes) (first second : List Post) :
    boxes.deliverAll (first ++ second) = (boxes.deliverAll first).deliverAll second :=
  List.foldl_append

theorem logged_append (boxes : Mailboxes) (first second : List Post) :
    boxes.logged (first ++ second) =
      boxes.logged first ++ (boxes.deliverAll first).logged second := by
  induction first generalizing boxes with
  | nil => rfl
  | cons post rest ih =>
    rw [List.cons_append, logged, ih, logged, List.append_assoc]
    rfl

/-- A broadcast hands its notification to one sink after the other. -/
theorem broadcastTo_eq (note : Notice) (sinks : List Sink) (boxes : Mailboxes) :
    (broadcastTo note sinks boxes).boxes = boxes.deliverAll (addressed note sinks) ∧
      (broadcastTo note sinks boxes).warnings = boxes.logged (addressed note sinks) := by
  induction sinks generalizing boxes with
  | nil => exact ⟨rfl, rfl⟩
  | cons sink rest ih =>
    obtain ⟨delivered, logs⟩ := ih (boxes.deliver sink note).2
    rw [boxes_broadcastTo_cons, warnings_broadcastTo_cons, delivered, logs]
    exact ⟨rfl, rfl⟩

theorem getElem?_deliver (boxes : Mailboxes) (post : Post) (slot : Nat) :
    (boxes.deliver post.1 post.2).2[slot]? =
      boxes[slot]?.map fun box => box.queue (meant slot [post]) := by
  by_cases leads : post.1.outlet = .mailbox slot
  · rw [meant_singleton leads]
    unfold deliver
    rw [leads]
    dsimp only
    cases present : boxes[slot]? with
    | none => exact present
    | some box =>
      obtain ⟨bound, -⟩ := List.getElem?_eq_some_iff.mp present
      rw [List.getElem?_set_self bound, Mailbox.offer_eq_queue]
      rfl
  · rw [deliver_getElem?_of_ne leads, meant_singleton_of_ne leads]
    simp

/-- A mailbox is handed the notifications that are meant for it, in order. -/
theorem getElem?_deliverAll (boxes : Mailboxes) (posts : List Post) (slot : Nat) :
    (boxes.deliverAll posts)[slot]? = boxes[slot]?.map fun box => box.queue (meant slot posts) := by
  induction posts generalizing boxes with
  | nil => simp [deliverAll, meant]
  | cons post rest ih =>
    refine (ih (boxes.deliver post.1 post.2).2).trans ?_
    rw [getElem?_deliver, Option.map_map, meant_cons slot post rest]
    congr 1
    funext box
    exact (box.queue_append _ _).symm

section Room

variable {boxes : Mailboxes} {posts first second : List Post} {slot : Nat} {box : Mailbox}

theorem deliver_eq_dropped {sink : Sink} (leads : sink.outlet = .mailbox slot)
    (present : boxes[slot]? = some box) (reading : box.isOpen = true)
    (full : ¬ box.queued.length < box.capacity) (note : Notice) :
    (boxes.deliver sink note).1 = .dropped := by
  simp only [deliver, leads, present, Mailbox.offer, reading, Bool.not_true, Bool.false_eq_true,
    ↓reduceIte, if_neg full]

/-- A mailbox with a reader that is never found full has room for all that is meant for it. -/
theorem length_meant_le (never : ∀ id, NeverFull (boxes.logged posts) id)
    (present : boxes[slot]? = some box) (reading : box.isOpen = true) :
    (meant slot posts).length ≤ box.capacity - box.queued.length := by
  induction posts generalizing boxes box with
  | nil => exact Nat.zero_le _
  | cons post rest ih =>
    have next := getElem?_deliver boxes post slot
    rw [present, Option.map_some] at next
    have later := ih (fun id => (never id).of_append.2) next (box.isOpen_queue _ ▸ reading)
    rw [meant_cons slot post rest, List.length_append]
    by_cases leads : post.1.outlet = .mailbox slot
    · have room : box.queued.length < box.capacity := by
        by_contra full
        refine (never post.1.id).of_append.1 post.2 ?_
        rw [deliver_eq_dropped leads present reading full]
        exact List.mem_singleton_self _
      have taken : (box.queue [post.2]).queued = box.queued ++ [post.2] := by
        rw [Mailbox.queue, if_pos reading, List.take_of_length_le]
        rw [List.length_singleton]
        omega
      have same : (box.queue [post.2]).capacity = box.capacity := by
        rw [Mailbox.queue, if_pos reading]
      rw [meant_singleton leads] at later ⊢
      rw [taken, same, List.length_append, List.length_singleton] at later
      rw [List.length_singleton]
      omega
    · rw [meant_singleton_of_ne leads, Mailbox.queue_nil] at later
      rwa [meant_singleton_of_ne leads, List.length_nil, Nat.zero_add]

theorem filter_meant_eq_nil {key : String} (apart : ∀ post ∈ posts, post.2.key ≠ key) :
    (meant slot posts).filter (fun note => note.key = key) = [] := by
  refine List.filter_eq_nil_iff.mpr fun note member => ?_
  obtain ⟨post, posted, same⟩ := List.mem_filterMap.mp member
  split at same
  · cases same
    simpa using apart post posted
  · cases same

/-- What a mailbox holds about a key when it had room for all that it was handed. -/
theorem about_queue (reading : box.isOpen = true) {notes : List Notice}
    (fits : notes.length ≤ box.capacity - box.queued.length) (key : String) :
    (box.queue notes).about key = box.about key ++ notes.filter fun note => note.key = key := by
  rw [Mailbox.about, Mailbox.queue, if_pos reading, List.take_of_length_le fits, List.filter_append,
    Mailbox.about]

/-- Two lists of posts about different keys may be handed over in either order, if no queue is found
full: a mailbox then holds the same notifications about each key, in the same order. -/
theorem about_deliverAll_comm (never : ∀ id, NeverFull (boxes.logged (first ++ second)) id)
    (apart : ∀ one ∈ first, ∀ other ∈ second, one.2.key ≠ other.2.key) (slot : Nat) (key : String) :
    (boxes.deliverAll (first ++ second))[slot]?.map (Mailbox.about · key) =
      (boxes.deliverAll (second ++ first))[slot]?.map (Mailbox.about · key) := by
  rw [getElem?_deliverAll, getElem?_deliverAll, Option.map_map, Option.map_map]
  cases present : boxes[slot]? with
  | none => rfl
  | some box =>
    rw [Option.map_some, Option.map_some, Function.comp_apply, Function.comp_apply]
    by_cases reading : box.isOpen = true
    · have room := length_meant_le never present reading
      have roomBehind : (meant slot (second ++ first)).length ≤ box.capacity - box.queued.length := by
        rw [meant_append, List.length_append, Nat.add_comm, ← List.length_append, ← meant_append]
        exact room
      rw [about_queue reading room, about_queue reading roomBehind, meant_append, meant_append,
        List.filter_append, List.filter_append]
      -- Only one of the two lists has posts about the key.
      by_cases touched : ∃ one ∈ first, one.2.key = key
      · obtain ⟨one, member, same⟩ := touched
        rw [@filter_meant_eq_nil second slot key fun other also again =>
          apart one member other also (same.trans again.symm), List.append_nil, List.nil_append]
      · rw [@filter_meant_eq_nil first slot key fun one member same => touched ⟨one, member, same⟩,
          List.append_nil, List.nil_append]
    · rw [Mailbox.queue, Mailbox.queue, if_neg reading, if_neg reading]

end Room

end Mailboxes

/-! ## The posts of edits -/

/-- The notification about an edit. -/
def KeyEdit.note? : KeyEdit → Option Notice
  | put key value => some (.updated key value)
  | drop key => some (.deleted key)
  | subscribe _ _ | unsubscribe _ _ => none

namespace Hub

/-- What an edit posts: its notification to the subscribers of its key. -/
def postsOf (hub : Hub) (edit : KeyEdit) : List Post :=
  match edit.note? with
  | none => []
  | some note => addressed note (hub.store.members edit.key)

/-- What edits post one after the other. -/
def posts (hub : Hub) : List KeyEdit → List Post
  | [] => []
  | edit :: rest => hub.postsOf edit ++ (hub.edit edit).posts rest

/-- What a call logs. -/
def logOf (hub : Hub) : Call → List Warning
  | .write pairs => (hub.write pairs).warnings
  | .delete keys => (hub.delete keys).warnings
  | _ => []

section Posts

variable {hub other : Hub} {call : Call} {keys : List String}

theorem key_of_mem_postsOf {edit : KeyEdit} {post : Post} (member : post ∈ hub.postsOf edit) :
    post.2.key = edit.key := by
  cases edit with
  | put | drop =>
    obtain ⟨sink, -, rfl⟩ := List.mem_map.mp member
    rfl
  | subscribe | unsubscribe => exact absurd member List.not_mem_nil

theorem exists_edit_of_mem_posts {edits : List KeyEdit} {post : Post}
    (member : post ∈ hub.posts edits) : ∃ edit ∈ edits, post.2.key = edit.key := by
  induction edits generalizing hub with
  | nil => exact absurd member List.not_mem_nil
  | cons edit rest ih =>
    rcases List.mem_append.mp member with here | later
    · exact ⟨edit, List.mem_cons_self, key_of_mem_postsOf here⟩
    · obtain ⟨found, inRest, same⟩ := ih later
      exact ⟨found, List.mem_cons_of_mem _ inRest, same⟩

/-- An edit hands its posts over. -/
theorem boxes_edit (hub : Hub) (edit : KeyEdit) :
    (hub.edit edit).boxes = hub.boxes.deliverAll (hub.postsOf edit) := by
  cases edit with
  | put key value =>
    cases placed : bucketOf? key with
    | none =>
      have absent : hub.store.node? key = none := by rw [Store.node?_eq_bind, placed, Option.bind_none]
      rw [edit_put_of_unplaced placed, postsOf, KeyEdit.note?, KeyEdit.key,
        Store.members_of_absent absent]
      rfl
    | some index =>
      rw [edit_put placed, boxes_put placed, (Mailboxes.broadcastTo_eq ..).1]
      rfl
  | drop key =>
    rw [Hub.edit, boxes_drop, (Mailboxes.broadcastTo_eq ..).1]
    rfl
  | subscribe | unsubscribe => rfl

theorem boxes_editAll (hub : Hub) (edits : List KeyEdit) :
    (hub.editAll edits).boxes = hub.boxes.deliverAll (hub.posts edits) := by
  induction edits generalizing hub with
  | nil => rfl
  | cons edit rest ih =>
    rw [posts, Mailboxes.deliverAll_append, ← boxes_edit]
    exact ih (hub.edit edit)

/-- Hubs that agree about the keys of edits post the same. -/
theorem posts_congr (alike : hub.Alike other) {edits : List KeyEdit}
    (same : ∀ edit ∈ edits, other.store.node? edit.key = hub.store.node? edit.key) :
    other.posts edits = hub.posts edits := by
  induction edits generalizing hub other with
  | nil => rfl
  | cons edit rest ih =>
    have here : other.postsOf edit = hub.postsOf edit := by
      unfold postsOf
      rw [Store.members_congr (same edit List.mem_cons_self)]
    have later := ih (alike.edit_both edit) fun next member =>
      isLocal_node?.congr_edit alike edit (same next (List.mem_cons_of_mem _ member))
    rw [posts, posts, here, later]

theorem logged_posts_cons (hub : Hub) (edit : KeyEdit) (rest : List KeyEdit) :
    hub.boxes.logged (hub.posts (edit :: rest)) =
      hub.boxes.logged (hub.postsOf edit) ++
        (hub.edit edit).boxes.logged ((hub.edit edit).posts rest) := by
  rw [posts, Mailboxes.logged_append, ← boxes_edit]

theorem warnings_putAll {items : List (BucketIndex × String × String)}
    (placed : ∀ item ∈ items, bucketOf? item.2.1 = some item.1) (hub : Hub) :
    (hub.putAll items).warnings =
      hub.boxes.logged (hub.posts (items.map fun item => .put item.2.1 item.2.2)) := by
  induction items generalizing hub with
  | nil => rfl
  | cons item rest ih =>
    obtain ⟨index, key, value⟩ := item
    have here : bucketOf? key = some index := placed _ List.mem_cons_self
    have later := ih (fun next member => placed next (List.mem_cons_of_mem _ member))
      (hub.put index key value).hub
    rw [List.map_cons, logged_posts_cons, edit_put here, ← later, putAll, warnings_put here,
      (Mailboxes.broadcastTo_eq ..).2]
    rfl

theorem warnings_delete (hub : Hub) (keys : List String) :
    (hub.delete keys).warnings = hub.boxes.logged (hub.posts (keys.map .drop)) := by
  induction keys generalizing hub with
  | nil => rfl
  | cons key rest ih =>
    -- One deletion logs what its broadcast logs, which for an absent key is nothing.
    have here : ((⟨hub, []⟩ : Change).drop key).warnings =
        (broadcastTo (.deleted key) (hub.store.members key) hub.boxes).warnings :=
      (Change.drop_eq_post ⟨hub, []⟩ key).2.2
    have split : (hub.delete (key :: rest)).warnings =
        ((⟨hub, []⟩ : Change).drop key).warnings ++ ((hub.drop key).delete rest).warnings := by
      rw [delete, Change.drop, drop]
      cases hub.remove? key <;> rfl
    rw [split, here, ih, List.map_cons, logged_posts_cons, (Mailboxes.broadcastTo_eq ..).2]
    rfl

/-- A call about keys logs what becomes of its posts. -/
theorem logOf_eq (hub : Hub) (named : call.keys? = some keys) :
    hub.logOf call = hub.boxes.logged (hub.posts call.keyEdits) := by
  cases call with
  | write pairs =>
    rw [Call.keyEdits, ← map_snd_acceptedPairs, List.map_map]
    exact warnings_putAll (fun item member => bucketOf?_of_mem_acceptedPairs member) hub
  | delete names => exact hub.warnings_delete names
  | read | subscribe | unsubscribe | subscriberCount => rfl
  | snapshot | size | unsubscribeAll | openMailbox | receive | closeMailbox => cases named

end Posts

end Hub

end WatchedStore
