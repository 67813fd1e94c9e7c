import Mathlib.Logic.Function.Basic
import WatchedStore.Proofs.Store.Posting

/-! # Two hubs in step

The same calls on two hubs leave the same store in both, however differently their mailboxes are
read, as long as no reader goes away under a subscriber: whether a queue is full decides about
notifications only. A reader whose queue is never found full in either hub is handed the same
notifications by both. How the two queues of one reader are related is left open here; all that
matters is that a notification at the end of both keeps the relation.
-/

namespace WatchedStore

variable {seats : Seats}

/-- Two changes with the same store. Every subscriber has a reader in both, and the queues of a
reader that were never found full agree. -/
structure InStep (seats : Seats) (agree : Nat → List Notice → List Notice → Prop)
    (one two : Change) : Prop where
  store : two.hub.store = one.hub.store
  sound : one.hub.store.Sound
  clean : ∀ {key : String} {node : Node}, one.hub.store.node? key = some node →
    textFault? key = none
  seated : ∀ {key : String}, ∀ sink ∈ one.hub.store.members key, sink.IsSeated seats
  plain : ∀ {slot : Nat} {box : Mailbox}, one.hub.boxes[slot]? = some box →
    ∀ note ∈ box.queued, note.IsPlain
  queues : ∀ {slot : Nat} {id : SinkId}, seats slot = some id → ∃ box mirror,
    one.hub.boxes[slot]? = some box ∧ two.hub.boxes[slot]? = some mirror ∧
    box.isOpen = true ∧ mirror.isOpen = true ∧
    (NeverFull one.warnings id → NeverFull two.warnings id → agree slot box.queued mirror.queued)

namespace InStep

variable {agree : Nat → List Notice → List Notice → Prop} {one two : Change}

/-- Two empty hubs are in step, and nobody reads them. -/
theorem ofEmpty (limit : Nat) :
    InStep (fun _ => none) agree ⟨Hub.empty limit, []⟩ ⟨Hub.empty limit, []⟩ where
  store := rfl
  sound := Store.sound_empty limit
  clean := by
    intro key node found
    cases (Store.node?_empty limit key).symm.trans found
  seated := by
    intro key sink member
    rw [Hub.empty, Store.members_empty] at member
    cases member
  plain := by rintro slot box ⟨⟩
  queues := by rintro slot id ⟨⟩

theorem accepts (same : InStep seats agree one two) {key : String} :
    (∀ sink ∈ one.hub.store.members key, one.hub.boxes.accepts sink = true) ∧
      ∀ sink ∈ two.hub.store.members key, two.hub.boxes.accepts sink = true := by
  rw [same.store]
  constructor <;> intro sink member <;>
    obtain ⟨slot, seat, outlet⟩ := same.seated sink member <;>
    obtain ⟨box, mirror, here, there, reading, mirrored, -⟩ := same.queues seat
  · simp [Mailboxes.accepts, outlet, here, reading]
  · simp [Mailboxes.accepts, outlet, there, mirrored]

/-- The queues of every reader agree in another way. -/
theorem mono (same : InStep seats agree one two)
    {other : Nat → List Notice → List Notice → Prop}
    (weaker : ∀ slot id first second, seats slot = some id → agree slot first second →
      other slot first second) : InStep seats other one two := by
  refine { same with queues := fun {slot id} seat => ?_ }
  obtain ⟨box, mirror, here, there, reading, mirrored, agrees⟩ := same.queues seat
  exact ⟨box, mirror, here, there, reading, mirrored,
    fun never neverThere => weaker slot id _ _ seat (agrees never neverThere)⟩

section Batches

variable (grows : ∀ slot first second note, note.IsPlain → agree slot first second →
  agree slot (first ++ [note]) (second ++ [note]))

include grows

/-- Both broadcast a notification to the subscribers of its key. -/
theorem post (same : InStep seats agree one two) {note : Notice} (plain : note.IsPlain) :
    InStep seats agree (one.post note) (two.post note) := by
  refine { same with plain := ?_, queues := ?_ }
  · intro slot box after old member
    rcases mem_queued_broadcastTo after member with rfl | ⟨before, present, held⟩
    · exact plain
    · exact same.plain present old held
  · intro slot id seat
    obtain ⟨box, mirror, here, there, reading, mirrored, agrees⟩ := same.queues seat
    have once := same.sound.nodup_members note.key
    have members : two.hub.store.members note.key = one.hub.store.members note.key := by
      rw [same.store]
    -- Both mailboxes stay open, whatever is lost.
    have opened : ∀ {boxes : Mailboxes} {sinks : List Sink} {box : Mailbox},
        boxes[slot]? = some box → box.isOpen = true →
        ∃ later, (broadcastTo note sinks boxes).boxes[slot]? = some later ∧
          later.isOpen = true := by
      intro boxes sinks box present reading
      have kept := isOpen_broadcastTo note sinks boxes slot
      rw [present, Option.map_some, reading, Option.map_eq_some_iff] at kept
      exact kept
    obtain ⟨later, hereLater, readingLater⟩ := opened here reading
    obtain ⟨mirrorLater, thereLater, mirroredLater⟩ := opened there mirrored
    refine ⟨later, mirrorLater, hereLater, thereLater, readingLater, mirroredLater, ?_⟩
    intro never neverThere
    obtain ⟨before, during⟩ := never.of_append
    obtain ⟨beforeThere, duringThere⟩ := neverThere.of_append
    have first := getElem?_broadcastTo_of_seat once same.seated seat here reading (during note)
    have second := getElem?_broadcastTo_of_seat (members ▸ once) (members ▸ same.seated) seat there
      mirrored (duringThere note)
    rw [hereLater, Option.some.injEq] at first
    rw [thereLater, Option.some.injEq, members] at second
    rw [first, second]
    split
    · exact grows slot _ _ note plain (agrees before beforeThere)
    · exact agrees before beforeThere

theorem put (same : InStep seats agree one two) {index : BucketIndex} {key value : String}
    (valid : validatePair key value = .ok index) :
    InStep seats agree (one.put (index, key, value)) (two.put (index, key, value)) := by
  obtain ⟨cleanKey, placed, cleanValue⟩ := validatePair_eq_ok_iff.mp valid
  obtain ⟨boxes, warnings⟩ := @Change.put_eq_post one index key placed value
  obtain ⟨boxesThere, warningsThere⟩ := @Change.put_eq_post two index key placed value
  have posted :
      InStep seats agree (one.post (.updated key value)) (two.post (.updated key value)) :=
    same.post grows ⟨cleanKey, cleanValue⟩
  have store : (one.put (index, key, value)).hub.store = one.hub.store.enter index key value :=
    Hub.store_put placed value same.accepts.1
  have storeThere : (two.put (index, key, value)).hub.store = two.hub.store.enter index key value :=
    Hub.store_put placed value same.accepts.2
  constructor
  case store => rw [store, storeThere, same.store]
  case sound => exact Hub.sound_put same.sound placed value
  case clean =>
    intro other node found
    rw [Change.put, Hub.node?_put same.sound placed] at found
    split at found
    · next eq => exact eq ▸ cleanKey
    · exact same.clean found
  case seated =>
    intro other sink member
    rw [Change.put, Hub.members_put same.sound placed] at member
    split at member
    · exact same.seated sink (List.mem_of_mem_filter member)
    · exact same.seated sink member
  case plain =>
    rw [boxes]
    exact posted.plain
  case queues =>
    rw [boxes, boxesThere, warnings, warningsThere]
    exact posted.queues

theorem drop (same : InStep seats agree one two) (key : String) :
    InStep seats agree (one.drop key) (two.drop key) := by
  cases found : one.hub.store.node? key with
  | none =>
    have here := Hub.remove?_eq_none_iff.mpr found
    have there := Hub.remove?_eq_none_iff.mpr (same.store ▸ found)
    simpa only [Change.drop, here, there] using same
  | some node =>
    obtain ⟨hub, boxes, warnings⟩ := Change.drop_eq_post one key
    obtain ⟨hubThere, boxesThere, warningsThere⟩ := Change.drop_eq_post two key
    have posted : InStep seats agree (one.post (.deleted key)) (two.post (.deleted key)) :=
      same.post grows (same.clean found)
    constructor
    case store =>
      rw [hub, hubThere]
      exact Hub.store_drop same.store key
    case sound =>
      rw [hub]
      exact Hub.sound_drop same.sound key
    case clean =>
      intro other kept present
      rw [hub, Hub.node?_drop same.sound] at present
      split at present
      · cases present
      · exact same.clean present
    case seated =>
      intro other sink member
      rw [hub, Hub.members_drop same.sound] at member
      split at member
      · cases member
      · exact same.seated sink member
    case plain =>
      rw [boxes]
      exact posted.plain
    case queues =>
      rw [boxes, boxesThere, warnings, warningsThere]
      exact posted.queues

/-- Both hubs are written. -/
theorem write (same : InStep seats agree one two) (pairs : List (String × String)) :
    InStep seats agree (one.write pairs) (two.write pairs) := by
  rw [Change.write_eq_foldl, Change.write_eq_foldl]
  apply List.foldl_rel same
  rintro ⟨index, key, value⟩ member first second related
  exact related.put grows (validatePair_of_mem_acceptedPairs member)

/-- Both hubs delete keys. -/
theorem delete (same : InStep seats agree one two) (keys : List String) :
    InStep seats agree (one.delete keys) (two.delete keys) := by
  rw [Change.delete_eq_foldl, Change.delete_eq_foldl]
  apply List.foldl_rel same
  intro key _ first second related
  exact related.drop grows key

end Batches

section Subscriptions

variable (same : InStep seats agree one two)

include same

/-- Both hubs subscribe a reader. -/
theorem subscribe (key : String) {sink : Sink} (seated : sink.IsSeated seats) :
    InStep seats agree ⟨(one.hub.subscribe key sink).2, one.warnings⟩
      ⟨(two.hub.subscribe key sink).2, two.warnings⟩ := by
  refine { same with
    store := ?_, sound := same.sound.subscribe key sink, clean := ?_, seated := ?_ }
  · rw [Hub.store_subscribe, Hub.store_subscribe, same.store]
  · intro other node found
    rw [Hub.store_subscribe] at found
    obtain ⟨before, present⟩ := Store.exists_node?_of_editSubscribers found
    exact same.clean present
  · intro other member present
    rw [Hub.subscribe, Store.members_subscribe] at present
    split at present
    · rcases List.mem_cons.mp ((Subscribers.file_perm _ _).mem_iff.mp present) with rfl | old
      · exact seated
      · exact same.seated member old
    · exact same.seated member present

/-- Both hubs unsubscribe an identity. -/
theorem unsubscribe (key : String) (id : SinkId) :
    InStep seats agree ⟨(one.hub.unsubscribe key id).2, one.warnings⟩
      ⟨(two.hub.unsubscribe key id).2, two.warnings⟩ := by
  refine { same with
    store := ?_, sound := same.sound.unsubscribe key id, clean := ?_, seated := ?_ }
  · rw [Hub.store_unsubscribe, Hub.store_unsubscribe, same.store]
  · intro other node found
    rw [Hub.store_unsubscribe] at found
    obtain ⟨before, present⟩ := Store.exists_node?_of_editSubscribers found
    exact same.clean present
  · intro other member present
    rw [Hub.unsubscribe, Store.members_unsubscribe] at present
    split at present
    · exact same.seated member (List.mem_of_mem_filter present)
    · exact same.seated member present

/-- A reader leaves both hubs; in the first its mailbox is given up. -/
theorem leave {slot : Nat} {id : SinkId} (seat : seats slot = some id) :
    InStep (Function.update seats slot none) agree
      ⟨(one.hub.unsubscribeAll id).2.closeMailbox slot, one.warnings⟩
      ⟨(two.hub.unsubscribeAll id).2, two.warnings⟩ := by
  constructor
  case store =>
    change (two.hub.store.unsubscribeAll id).2 = (one.hub.store.unsubscribeAll id).2
    rw [same.store]
  case sound => exact same.sound.unsubscribeAll id
  case clean =>
    intro key node found
    change (one.hub.store.unsubscribeAll id).2.node? key = some node at found
    rw [Store.node?_unsubscribeAll] at found
    obtain ⟨before, present, -⟩ := Option.map_eq_some_iff.mp found
    exact same.clean present
  case seated =>
    intro key sink member
    change sink ∈ (one.hub.store.unsubscribeAll id).2.members key at member
    rw [Store.members_unsubscribeAll] at member
    obtain ⟨present, apart⟩ := List.mem_filter.mp member
    obtain ⟨own, taken, outlet⟩ := same.seated sink present
    refine ⟨own, ?_, outlet⟩
    have other : own ≠ slot := by
      rintro rfl
      rw [seat, Option.some.injEq] at taken
      exact of_decide_eq_true apart taken.symm
    rw [Function.update_of_ne other]
    exact taken
  case plain =>
    intro other box present note member
    change (one.hub.boxes.close slot)[other]? = some box at present
    by_cases eq : slot = other
    · subst eq
      rw [Mailboxes.close, List.getElem?_modify_eq] at present
      obtain ⟨before, -, closed⟩ := Option.map_eq_some_iff.mp present
      rw [← closed] at member
      cases member
    · rw [Mailboxes.getElem?_close_of_ne eq] at present
      exact same.plain present note member
  case queues =>
    intro other own taken
    have apart : other ≠ slot := by
      rintro rfl
      rw [Function.update_self] at taken
      cases taken
    rw [Function.update_of_ne apart] at taken
    change ∃ box mirror, (one.hub.boxes.close slot)[other]? = some box ∧ _
    rw [Mailboxes.getElem?_close_of_ne apart.symm]
    exact same.queues taken

end Subscriptions

section Readers

variable (same : InStep seats agree one two)

include same

/-- A reader joins both hubs. -/
theorem join {id : SinkId} (capacity : Nat)
    {other : Nat → List Notice → List Notice → Prop}
    (length : two.hub.boxes.length = one.hub.boxes.length)
    (fresh : seats one.hub.boxes.length = none)
    (starts : other one.hub.boxes.length [] [])
    (keeps : ∀ slot first second, slot < one.hub.boxes.length → agree slot first second →
      other slot first second) :
    InStep (Function.update seats one.hub.boxes.length (some id)) other
      ⟨(one.hub.openMailbox capacity).2, one.warnings⟩
      ⟨(two.hub.openMailbox capacity).2, two.warnings⟩ := by
  refine { same with seated := ?_, plain := ?_, queues := ?_ }
  · intro key sink member
    obtain ⟨slot, taken, outlet⟩ := same.seated sink member
    refine ⟨slot, ?_, outlet⟩
    rw [Function.update_of_ne]
    · exact taken
    · rintro rfl
      cases fresh.symm.trans taken
  · intro slot box present note member
    change (one.hub.boxes ++ [Mailbox.ofCapacity capacity])[slot]? = some box at present
    rcases List.mem_append.mp (List.mem_of_getElem? present) with old | new
    · obtain ⟨place, bound, rfl⟩ := List.getElem_of_mem old
      exact same.plain (List.getElem?_eq_getElem bound) note member
    · rw [List.mem_singleton.mp new] at member
      cases member
  · intro slot own taken
    change ∃ box mirror, (one.hub.boxes ++ [Mailbox.ofCapacity capacity])[slot]? = some box ∧
      (two.hub.boxes ++ [Mailbox.ofCapacity capacity])[slot]? = some mirror ∧ _
    by_cases eq : slot = one.hub.boxes.length
    · subst eq
      refine ⟨Mailbox.ofCapacity capacity, Mailbox.ofCapacity capacity,
        List.getElem?_concat_length, ?_, rfl, rfl, fun _ _ => starts⟩
      rw [← length]
      exact List.getElem?_concat_length
    · rw [Function.update_of_ne eq] at taken
      obtain ⟨box, mirror, here, there, reading, mirrored, agrees⟩ := same.queues taken
      have bound : slot < one.hub.boxes.length := (List.getElem?_eq_some_iff.mp here).1
      refine ⟨box, mirror, ?_, ?_, reading, mirrored, fun never neverThere =>
        keeps slot _ _ bound (agrees never neverThere)⟩
      · rw [List.getElem?_append_left bound]
        exact here
      · rw [List.getElem?_append_left (length ▸ bound)]
        exact there

/-- The reader of a mailbox of the first hub takes everything out. -/
theorem empty (slot : Nat) {other : Nat → List Notice → List Notice → Prop}
    (passes : ∀ box second, one.hub.boxes[slot]? = some box → agree slot box.queued second →
      other slot [] second)
    (keeps : ∀ place first second, place ≠ slot → agree place first second →
      other place first second) :
    InStep seats other
      ⟨{ one.hub with boxes := one.hub.boxes.modify slot fun box => { box with queued := [] } },
        one.warnings⟩
      two := by
  refine { same with plain := ?_, queues := ?_ }
  · intro place later there note member
    dsimp only at there
    rw [List.getElem?_modify] at there
    split at there
    · obtain ⟨before, -, rfl⟩ := Option.map_eq_some_iff.mp there
      cases member
    · exact same.plain (by simpa using there) note member
  · intro place own taken
    obtain ⟨box, mirror, here, there, reading, mirrored, agrees⟩ := same.queues taken
    dsimp only
    rw [List.getElem?_modify, here]
    by_cases eq : slot = place
    · subst eq
      exact ⟨{ box with queued := [] }, mirror, by simp, there, reading, mirrored,
        fun never neverThere => passes box _ here (agrees never neverThere)⟩
    · exact ⟨box, mirror, by simp [eq], there, reading, mirrored,
        fun never neverThere => keeps place _ _ (Ne.symm eq) (agrees never neverThere)⟩

/-- The reader of a mailbox of the second hub takes something out. -/
theorem receive (slot most : Nat) {other : Nat → List Notice → List Notice → Prop}
    (passes : ∀ first mirror, two.hub.boxes[slot]? = some mirror → agree slot first mirror.queued →
      other slot first (mirror.queued.drop most))
    (keeps : ∀ place first second, place ≠ slot → agree place first second →
      other place first second) :
    InStep seats other one ⟨(two.hub.receive slot most).2, two.warnings⟩ := by
  refine { same with queues := ?_ }
  intro place own taken
  obtain ⟨box, mirror, here, there, reading, mirrored, agrees⟩ := same.queues taken
  change ∃ box mirror, _ ∧ (two.hub.boxes.receive slot most).2[place]? = some mirror ∧ _
  by_cases eq : slot = place
  · subst eq
    refine ⟨box, { mirror with queued := mirror.queued.drop most }, here, ?_, reading, mirrored,
      fun never neverThere => passes _ _ there (agrees never neverThere)⟩
    simp only [Mailboxes.receive, there]
    exact List.getElem?_set_self (List.getElem?_eq_some_iff.mp there).1
  · refine ⟨box, mirror, here, ?_, reading, mirrored,
      fun never neverThere => keeps place _ _ (Ne.symm eq) (agrees never neverThere)⟩
    rw [Mailboxes.getElem?_receive_of_ne eq]
    exact there

end Readers

end InStep

end WatchedStore
