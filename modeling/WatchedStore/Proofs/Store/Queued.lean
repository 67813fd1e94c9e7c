import WatchedStore.Proofs.Store.Posting

/-! # What can be queued

A put validates both texts of its pair and only keys in the store are deleted, so every notification
that a run hands to anybody is about texts that the store accepts. It does not matter who subscribes
to what, nor how the queues are read: an offer adds the one notification to a queue or nothing.
-/

namespace WatchedStore

/-- A run has handed a notification to somebody: it stood in a queue after one of the calls, or a
reader has taken it out. -/
inductive Hub.Delivers (hub : Hub) (calls : List Call) (note : Notice) : Prop
  | queued {before : List Call} {slot : Nat} {box : Mailbox} (early : before <+: calls)
      (present : (hub.after before).boxes[slot]? = some box) (member : note ∈ box.queued)
  | received {call : Call} {notes : List Notice}
      (answered : (call, .notices notes) ∈ hub.transcript calls) (member : note ∈ notes)

/-- The store accepts every text that stands in a queue or is the name of a key. -/
structure Hub.IsPlain (hub : Hub) : Prop where
  sound : hub.store.Sound
  keys : ∀ {key : String} {node : Node}, hub.store.node? key = some node → textFault? key = none
  notes : ∀ {slot : Nat} {box : Mailbox}, hub.boxes[slot]? = some box →
    ∀ note ∈ box.queued, note.IsPlain

namespace Hub

theorem isPlain_empty (limit : Nat) : (empty limit).IsPlain where
  sound := Store.sound_empty limit
  keys := by
    intro key node found
    cases (Store.node?_empty limit key).symm.trans found
  notes := by rintro slot box ⟨⟩

namespace IsPlain

variable {hub : Hub}

/-- A broadcast adds nothing but its notification. -/
theorem notes_broadcast (plain : hub.IsPlain) {note : Notice} (clean : note.IsPlain)
    (sinks : List Sink) {slot : Nat} {box : Mailbox}
    (after : (broadcastTo note sinks hub.boxes).boxes[slot]? = some box) :
    ∀ old ∈ box.queued, old.IsPlain := by
  intro old member
  rcases mem_queued_broadcastTo after member with rfl | ⟨before, present, held⟩
  · exact clean
  · exact plain.notes present old held

theorem put (plain : hub.IsPlain) {index : BucketIndex} {key value : String}
    (valid : validatePair key value = .ok index) : (hub.put index key value).hub.IsPlain := by
  obtain ⟨cleanKey, placed, cleanValue⟩ := validatePair_eq_ok_iff.mp valid
  refine ⟨sound_put plain.sound placed value, ?_, ?_⟩
  · intro other node found
    rw [node?_put plain.sound placed] at found
    split at found
    · next same => exact same ▸ cleanKey
    · exact plain.keys found
  · intro slot box after
    rw [boxes_put placed] at after
    have clean : (Notice.updated key value).IsPlain := ⟨cleanKey, cleanValue⟩
    exact plain.notes_broadcast clean _ after

theorem drop (plain : hub.IsPlain) (key : String) : (hub.drop key).IsPlain := by
  cases found : hub.store.node? key with
  | none => exact (drop_of_absent found).symm ▸ plain
  | some node =>
    refine ⟨sound_drop plain.sound key, ?_, ?_⟩
    · intro other kept present
      rw [node?_drop plain.sound] at present
      split at present
      · cases present
      · exact plain.keys present
    · intro slot box after
      rw [boxes_drop] at after
      have clean : (Notice.deleted key).IsPlain := plain.keys found
      exact plain.notes_broadcast clean _ after

theorem write (plain : hub.IsPlain) (pairs : List (String × String)) :
    (hub.write pairs).hub.IsPlain := by
  rw [hub_write]
  exact List.foldlRecOn _ _ plain fun _ current _ member =>
    current.put (validatePair_of_mem_acceptedPairs member)

theorem delete (plain : hub.IsPlain) (keys : List String) : (hub.delete keys).hub.IsPlain := by
  rw [hub_delete]
  exact List.foldlRecOn _ _ plain fun _ current key _ => current.drop key

theorem call (plain : hub.IsPlain) (call : Call) : (hub.call call).2.IsPlain := by
  have sound := sound_call plain.sound call
  cases call with
  | write pairs => exact plain.write pairs
  | delete keys => exact plain.delete keys
  | subscribe key sink =>
    refine ⟨sound, fun found => ?_, plain.notes⟩
    rw [Hub.call, store_subscribe] at found
    obtain ⟨before, present⟩ := Store.exists_node?_of_editSubscribers found
    exact plain.keys present
  | unsubscribe key id =>
    refine ⟨sound, fun found => ?_, plain.notes⟩
    rw [Hub.call, store_unsubscribe] at found
    obtain ⟨before, present⟩ := Store.exists_node?_of_editSubscribers found
    exact plain.keys present
  | unsubscribeAll id =>
    refine ⟨sound, fun found => ?_, plain.notes⟩
    change (hub.store.unsubscribeAll id).2.node? _ = _ at found
    rw [Store.node?_unsubscribeAll] at found
    obtain ⟨before, present, -⟩ := Option.map_eq_some_iff.mp found
    exact plain.keys present
  | openMailbox capacity =>
    refine ⟨sound, plain.keys, fun {slot box} present note member => ?_⟩
    change (hub.boxes ++ [Mailbox.ofCapacity capacity])[slot]? = some box at present
    rw [List.getElem?_append] at present
    split at present
    · exact plain.notes present note member
    · rw [List.mem_singleton.mp (List.mem_of_getElem? present)] at member
      cases member
  | receive slot most =>
    refine ⟨sound, plain.keys, fun {other box} present note member => ?_⟩
    change (hub.boxes.receive slot most).2[other]? = some box at present
    by_cases same : slot = other
    · subst same
      unfold Mailboxes.receive at present
      cases found : hub.boxes[slot]? with
      | none =>
        simp only [found, reduceCtorEq] at present
      | some before =>
        have bound : slot < hub.boxes.length := (List.getElem?_eq_some_iff.mp found).1
        simp only [found, List.getElem?_set_self bound, Option.some.injEq] at present
        rw [← present] at member
        exact plain.notes found note (List.mem_of_mem_drop member)
    · rw [Mailboxes.getElem?_receive_of_ne same] at present
      exact plain.notes present note member
  | closeMailbox slot =>
    refine ⟨sound, plain.keys, fun {other box} present note member => ?_⟩
    change (hub.boxes.close slot)[other]? = some box at present
    rw [Mailboxes.close, List.getElem?_modify] at present
    obtain ⟨before, found, changed⟩ := Option.map_eq_some_iff.mp present
    split at changed
    · rw [← changed] at member
      cases member
    · exact plain.notes found note (changed ▸ member)
  | read | snapshot | size | subscriberCount => exact plain

theorem after (plain : hub.IsPlain) (calls : List Call) : (hub.after calls).IsPlain :=
  List.foldlRecOn calls _ plain fun _ current asked _ => current.call asked

/-- What a call hands out was queued. -/
theorem of_answer (plain : hub.IsPlain) {call : Call} {notes : List Notice}
    (answer : (hub.call call).1 = .notices notes) : ∀ note ∈ notes, note.IsPlain := by
  intro note member
  cases call with
  | receive slot most =>
    obtain rfl : (hub.boxes.receive slot most).1 = notes := Answer.notices.inj answer
    unfold Mailboxes.receive at member
    cases found : hub.boxes[slot]? with
    | none =>
      rw [found] at member
      cases member
    | some box =>
      rw [found] at member
      exact plain.notes found note (List.mem_of_mem_take member)
  | write | read | delete | snapshot | size | subscriberCount | subscribe | unsubscribe
  | unsubscribeAll | openMailbox | closeMailbox => cases answer

/-- A run delivers nothing but notifications about texts that the store accepts. -/
theorem of_delivers (plain : hub.IsPlain) {calls : List Call} {note : Notice}
    (delivers : hub.Delivers calls note) : note.IsPlain := by
  cases delivers with
  | @queued before slot box early present member =>
    exact (plain.after before).notes present note member
  | @received call notes answered member =>
    induction calls generalizing hub with
    | nil => cases answered
    | cons asked rest ih =>
      rcases List.mem_cons.mp answered with same | later
      · exact plain.of_answer (congrArg Prod.snd same).symm note member
      · exact ih (plain.call asked) later

end IsPlain

end Hub

end WatchedStore
