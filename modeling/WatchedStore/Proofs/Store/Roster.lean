import WatchedStore.Proofs.Store.Ledger

/-! # Subscriptions as one relation

A roster is a single list of keys with the sinks related to them, next to the stored pairs and to
which mailboxes are still read. It knows no nodes and no sets, and it is driven by the calls alone.
After any run of calls the subscribers of every key are those the roster relates to it, and
subscribing and unsubscribing are answered from it. What is queued in a mailbox has no influence on
a roster.
-/

namespace WatchedStore

/-- The sinks related to the keys, the stored pairs, and which mailboxes are read. -/
structure Roster where
  limit : Nat
  ledger : Ledger
  related : List (String × Sink)
  readers : List Bool
deriving DecidableEq, Repr

namespace Roster

/-- Nothing stored, nobody related and no mailbox. -/
def empty (limit : Nat) : Roster := ⟨limit, [], [], []⟩

/-- The sinks related to a key. -/
def sinks (roster : Roster) (key : String) : List Sink :=
  (roster.related.filter fun entry => entry.1 = key).map Prod.snd

/-- The identities related to a key. -/
def ids (roster : Roster) (key : String) : List SinkId := (roster.sinks key).map Sink.id

/-- Whether deliveries to a sink fail: it is broken, or its mailbox is not read. -/
def fails (roster : Roster) (sink : Sink) : Bool :=
  match sink.outlet with
  | .broken => true
  | .mailbox slot => roster.readers[slot]? ≠ some true

/-- The answer to a request to subscribe. -/
def subscribing (roster : Roster) (key : String) (sink : Sink) : SubscribeOutcome :=
  if ¬ roster.ledger.has key then .keyNotFound
  else if sink.id ∈ roster.ids key then .alreadySubscribed
  else if roster.limit ≤ (roster.ids key).length then .limitReached
  else .subscribed

/-- The answer to a request to unsubscribe. -/
def unsubscribing (roster : Roster) (key : String) (id : SinkId) : UnsubscribeOutcome :=
  if ¬ roster.ledger.has key then .keyNotFound
  else if id ∈ roster.ids key then .removed
  else .notSubscribed

/-- To how many keys an identity is related. -/
def subscriptions (roster : Roster) (id : SinkId) : Nat :=
  roster.related.countP fun entry => entry.2.id = id

/-- Stores a pair: over a stored key, which loses the sinks whose deliveries fail, or as a new key
with nobody related to it. -/
def put (roster : Roster) (key value : String) : Roster :=
  { roster with
    ledger := roster.ledger.put key value
    related :=
      if roster.ledger.has key then
        roster.related.filter fun entry => ¬ (entry.1 = key ∧ roster.fails entry.2)
      else roster.related }

/-- Deletes a key with everyone related to it. -/
def erase (roster : Roster) (key : String) : Roster :=
  { roster with
    ledger := roster.ledger.erase key
    related := roster.related.filter fun entry => entry.1 ≠ key }

/-- What one call does to the roster. -/
def step (roster : Roster) : Call → Roster
  | .write pairs => (goodPairs pairs).foldl (fun roster pair => roster.put pair.1 pair.2) roster
  | .delete keys => keys.foldl erase roster
  | .subscribe key sink =>
    if roster.subscribing key sink = .subscribed then
      { roster with related := roster.related ++ [(key, sink)] }
    else roster
  | .unsubscribe key id =>
    { roster with
      related := roster.related.filter fun entry => ¬ (entry.1 = key ∧ entry.2.id = id) }
  | .unsubscribeAll id =>
    { roster with related := roster.related.filter fun entry => entry.2.id ≠ id }
  | .openMailbox _ => { roster with readers := roster.readers ++ [true] }
  | .closeMailbox slot => { roster with readers := roster.readers.set slot false }
  | _ => roster

/-- The roster after a run of calls. -/
def after (roster : Roster) (calls : List Call) : Roster := calls.foldl step roster

theorem mem_sinks {roster : Roster} {key : String} {sink : Sink} :
    sink ∈ roster.sinks key ↔ (key, sink) ∈ roster.related := by
  simp [sinks]

/-- Giving up entries gives up sinks of each key. -/
theorem sinks_filter (roster : Roster) (keep : String × Sink → Bool) (key : String) :
    sinks { roster with related := roster.related.filter keep } key =
      (roster.sinks key).filter fun sink => keep (key, sink) := by
  unfold sinks
  rw [List.filter_filter, List.filter_map, List.filter_filter]
  congr 1
  apply List.filter_congr
  intro entry _
  by_cases same : entry.1 = key
  · simp [← same]
  · simp [same]

/-- A put keeps the sinks of its key that do not fail, and all those of the other keys. -/
theorem sinks_put {roster : Roster} {key : String}
    (fresh : roster.ledger.has key = false → roster.sinks key = []) (value other : String) :
    (roster.put key value).sinks other =
      if other = key then (roster.sinks key).filter fun sink => ¬ roster.fails sink
      else roster.sinks other := by
  unfold put
  cases stored : roster.ledger.has key with
  | false =>
    by_cases same : other = key
    · subst same
      rw [if_pos rfl, fresh stored]
      exact fresh stored
    · rw [if_neg same]
      rfl
  | true =>
    have kept := sinks_filter roster
      (fun entry => ¬ (entry.1 = key ∧ roster.fails entry.2)) other
    refine kept.trans ?_
    by_cases same : other = key
    · subst same
      simp
    · simp [same]

theorem sinks_erase (roster : Roster) (key other : String) :
    (roster.erase key).sinks other = if other = key then [] else roster.sinks other := by
  refine (sinks_filter roster (fun entry => entry.1 ≠ key) other).trans ?_
  by_cases same : other = key
  · simp [same]
  · simp [same]

theorem sinks_push (roster : Roster) (key : String) (sink : Sink) (other : String) :
    sinks { roster with related := roster.related ++ [(key, sink)] } other =
      if other = key then roster.sinks key ++ [sink] else roster.sinks other := by
  unfold sinks
  rw [List.filter_append, List.map_append]
  by_cases same : other = key
  · simp [same]
  · simp [same, Ne.symm same]

end Roster

namespace Hub

/-- A hub holds what a roster says: its pairs, its subscribers in whatever order, its readers. -/
structure Enrols (hub : Hub) (roster : Roster) : Prop where
  represented : hub.store.Represents roster.ledger
  limited : hub.store.limit = roster.limit
  enrolled : ∀ key, (hub.store.members key).Perm (roster.sinks key)
  reading : hub.boxes.map Mailbox.isOpen = roster.readers

theorem enrols_empty (limit : Nat) : (empty limit).Enrols (Roster.empty limit) where
  represented := Store.represents_empty limit
  limited := rfl
  enrolled key := List.Perm.of_eq (Store.members_empty limit key)
  reading := rfl

variable {hub : Hub} {roster : Roster}

/-- A key that is not stored relates to nobody. -/
theorem Enrols.sinks_of_absent (same : hub.Enrols roster) {key : String}
    (absent : hub.store.node? key = none) : roster.sinks key = [] := by
  have nobody := same.enrolled key
  rw [Store.members_of_absent absent] at nobody
  exact nobody.symm.eq_nil

theorem Enrols.accepts_eq (same : hub.Enrols roster) (sink : Sink) :
    hub.boxes.accepts sink = !roster.fails sink := by
  unfold Mailboxes.accepts Roster.fails
  cases sink.outlet with
  | broken => rfl
  | mailbox slot =>
    dsimp only
    rw [← same.reading, List.getElem?_map]
    cases hub.boxes[slot]? with
    | none => rfl
    | some box => cases reading : box.isOpen <;> simp [reading]

theorem Enrols.size_eq (same : hub.Enrols roster) (key : String) :
    (hub.store.members key).length = (roster.ids key).length := by
  rw [Roster.ids, List.length_map, (same.enrolled key).length_eq]

theorem Enrols.has_eq (same : hub.Enrols roster) {key : String} {node : Node}
    (found : hub.store.node? key = some node) (id : SinkId) :
    node.subscribers.has id = decide (id ∈ roster.ids key) := by
  have members := same.enrolled key
  rw [Store.members_of_node? found] at members
  rw [Bool.eq_iff_iff, Subscribers.has_iff, decide_eq_true_iff, Roster.ids,
    ← (members.map Sink.id).mem_iff, List.mem_map]

/-- No identity is related to a key twice. -/
theorem Enrols.nodup_ids (same : hub.Enrols roster) (key : String) : (roster.ids key).Nodup := by
  have members := (same.enrolled key).map Sink.id
  refine members.nodup_iff.mp ?_
  cases found : hub.store.node? key with
  | none =>
    rw [Store.members_of_absent found]
    exact List.nodup_nil
  | some node =>
    rw [Store.members_of_node? found]
    exact (same.represented.sound.of_node? found).2.nodup_ids

theorem Enrols.subscribing_eq (same : hub.Enrols roster) (key : String) (sink : Sink) :
    (hub.store.subscribe key sink).1 = roster.subscribing key sink := by
  rw [Store.subscribe_fst, Roster.subscribing, same.represented.has_eq]
  cases found : hub.store.node? key with
  | none => rfl
  | some node =>
    have full : node.subscribers.limit ≤ node.subscribers.size ↔
        roster.limit ≤ (roster.ids key).length := by
      rw [(same.represented.sound.of_node? found).2.limited, same.limited, ← same.size_eq,
        Store.members_of_node? found, Subscribers.size]
    simp only [Option.isSome_some, not_true_eq_false, ↓reduceIte, Subscribers.insert,
      same.has_eq found, decide_eq_true_eq, full]
    split
    · rfl
    · split <;> rfl

theorem Enrols.unsubscribing_eq (same : hub.Enrols roster) (key : String) (id : SinkId) :
    (hub.store.unsubscribe key id).1 = roster.unsubscribing key id := by
  rw [Store.unsubscribe_fst, Roster.unsubscribing, same.represented.has_eq]
  cases found : hub.store.node? key with
  | none => rfl
  | some node =>
    simp only [Option.isSome_some, not_true_eq_false, ↓reduceIte, same.has_eq found,
      decide_eq_true_eq]

/-- An identity is a member where the roster relates it. -/
theorem Enrols.has_iff (same : hub.Enrols roster) {key : String} {id : SinkId} :
    (∃ node, hub.store.node? key = some node ∧ node.subscribers.has id = true) ↔
      id ∈ roster.ids key := by
  constructor
  · rintro ⟨node, found, member⟩
    rw [same.has_eq found] at member
    exact of_decide_eq_true member
  · intro related
    cases found : hub.store.node? key with
    | none =>
      rw [Roster.ids, same.sinks_of_absent found] at related
      exact absurd related List.not_mem_nil
    | some node => exact ⟨node, rfl, (same.has_eq found id).trans (decide_eq_true related)⟩

/-- The entries of one identity are for different keys. -/
theorem Enrols.nodup_keys (same : hub.Enrols roster) (id : SinkId) :
    ((roster.related.filter fun entry => entry.2.id = id).map Prod.fst).Nodup := by
  rw [List.nodup_iff_count_le_one]
  intro key
  have atMostOnce := List.nodup_iff_count_le_one.mp (same.nodup_ids key) id
  simp only [Roster.ids, Roster.sinks, List.count, List.countP_map, List.countP_filter]
    at atMostOnce
  simp only [List.count, List.countP_map, List.countP_filter]
  refine le_trans (List.countP_mono_left ?_) atMostOnce
  intro entry _ both
  simpa [and_comm] using both

/-- An identity is taken out of as many nodes as there are keys it is related to: both sides list
the same keys, and neither lists one twice. -/
theorem Enrols.subscriptions_eq (same : hub.Enrols roster) (id : SinkId) :
    (hub.store.unsubscribeAll id).1 = roster.subscriptions id := by
  have sound := same.represented.sound
  have nodesOnce :
      ((hub.store.nodes.filter fun node => node.subscribers.has id).map Node.key).Nodup :=
    sound.nodup_keys.sublist (List.filter_sublist.map _)
  have keysSame :
      ((hub.store.nodes.filter fun node => node.subscribers.has id).map Node.key).Perm
        ((roster.related.filter fun entry => entry.2.id = id).map Prod.fst) := by
    rw [List.perm_ext_iff_of_nodup nodesOnce (same.nodup_keys id)]
    intro key
    rw [List.mem_map, List.mem_map]
    constructor
    · rintro ⟨node, member, rfl⟩
      obtain ⟨present, has⟩ := List.mem_filter.mp member
      have related := same.has_iff.mp ⟨node, sound.mem_nodes_iff.mp present, has⟩
      obtain ⟨sink, inRoster, hit⟩ := List.mem_map.mp related
      exact ⟨(node.key, sink),
        List.mem_filter.mpr ⟨Roster.mem_sinks.mp inRoster, decide_eq_true hit⟩, rfl⟩
    · rintro ⟨⟨key, sink⟩, member, rfl⟩
      obtain ⟨inRoster, hit⟩ := List.mem_filter.mp member
      have related : id ∈ roster.ids key :=
        List.mem_map.mpr ⟨sink, Roster.mem_sinks.mpr inRoster, of_decide_eq_true hit⟩
      obtain ⟨node, found, has⟩ := same.has_iff.mpr related
      obtain rfl := (sound.of_node? found).1
      exact ⟨node, List.mem_filter.mpr ⟨sound.mem_nodes_iff.mpr found, has⟩, rfl⟩
  have lengths := keysSame.length_eq
  rw [List.length_map, List.length_map, ← List.countP_eq_length_filter,
    ← List.countP_eq_length_filter] at lengths
  exact lengths

theorem enrols_put (same : hub.Enrols roster) {index : BucketIndex} {key : String}
    (placed : bucketOf? key = some index) (value : String) :
    (hub.put index key value).hub.Enrols (roster.put key value) where
  represented := represents_put same.represented placed value
  limited := by
    rw [limit_put, same.limited]
    rfl
  enrolled := by
    intro other
    have fresh : roster.ledger.has key = false → roster.sinks key = [] := by
      intro unstored
      rw [same.represented.has_eq, Option.isSome_eq_false_iff, Option.isNone_iff_eq_none]
        at unstored
      exact same.sinks_of_absent unstored
    have survivors : (fun sink => decide ¬ roster.fails sink) = hub.boxes.accepts := by
      funext sink
      rw [same.accepts_eq]
      cases roster.fails sink <;> rfl
    rw [members_put same.represented.sound placed, Roster.sinks_put fresh, survivors]
    split
    · exact (same.enrolled key).filter _
    · exact same.enrolled other
  reading := by
    refine Eq.trans ?_ same.reading
    apply List.ext_getElem?
    intro slot
    rw [boxes_put placed, List.getElem?_map, isOpen_broadcastTo, List.getElem?_map]

theorem enrols_drop (same : hub.Enrols roster) (key : String) :
    (hub.drop key).Enrols (roster.erase key) where
  represented := represents_drop same.represented key
  limited := by
    rw [limit_drop, same.limited]
    rfl
  enrolled := by
    intro other
    rw [members_drop same.represented.sound, Roster.sinks_erase]
    split
    · exact List.Perm.refl []
    · exact same.enrolled other
  reading := by
    refine Eq.trans ?_ same.reading
    apply List.ext_getElem?
    intro slot
    rw [boxes_drop, List.getElem?_map, isOpen_broadcastTo, List.getElem?_map]

theorem enrols_subscribe (same : hub.Enrols roster) (key : String) (sink : Sink) :
    (hub.subscribe key sink).2.Enrols (roster.step (.subscribe key sink)) := by
  have represented := represents_call same.represented (.subscribe key sink)
  have limited : (hub.subscribe key sink).2.store.limit = roster.limit := by
    rw [store_subscribe, Store.limit_editSubscribers, same.limited]
  have members := hub.store.members_subscribe key sink
  rw [same.subscribing_eq] at members
  by_cases granted : roster.subscribing key sink = .subscribed
  · rw [Roster.step, if_pos granted]
    refine ⟨represented, limited, fun other => ?_, same.reading⟩
    rw [Roster.sinks_push]
    refine (List.Perm.of_eq (members other)).trans ?_
    by_cases here : other = key
    · rw [if_pos ⟨here, granted⟩, if_pos here]
      exact (Subscribers.file_perm sink _).trans
        (((same.enrolled key).cons sink).trans (List.perm_append_singleton sink _).symm)
    · rw [if_neg fun both => here both.1, if_neg here]
      exact same.enrolled other
  · rw [Roster.step, if_neg granted]
    refine ⟨represented, limited, fun other => ?_, same.reading⟩
    refine (List.Perm.of_eq (members other)).trans ?_
    rw [if_neg fun both => granted both.2]
    exact same.enrolled other

theorem enrols_unsubscribe (same : hub.Enrols roster) (key : String) (id : SinkId) :
    (hub.unsubscribe key id).2.Enrols (roster.step (.unsubscribe key id)) where
  represented := represents_call same.represented (.unsubscribe key id)
  limited := by
    rw [store_unsubscribe, Store.limit_editSubscribers, same.limited]
    rfl
  enrolled := by
    intro other
    refine (List.Perm.of_eq (hub.store.members_unsubscribe key id other)).trans ?_
    rw [Roster.step, Roster.sinks_filter]
    by_cases here : other = key
    · subst here
      simpa using (same.enrolled other).filter fun member => member.id ≠ id
    · simpa [here] using same.enrolled other
  reading := same.reading

theorem enrols_unsubscribeAll (same : hub.Enrols roster) (id : SinkId) :
    (hub.unsubscribeAll id).2.Enrols (roster.step (.unsubscribeAll id)) where
  represented := represents_call same.represented (.unsubscribeAll id)
  limited := same.limited
  enrolled := by
    intro key
    refine (List.Perm.of_eq (hub.store.members_unsubscribeAll id key)).trans ?_
    rw [Roster.step, Roster.sinks_filter]
    exact (same.enrolled key).filter _
  reading := same.reading

theorem enrols_openMailbox (same : hub.Enrols roster) (capacity : Nat) :
    (hub.openMailbox capacity).2.Enrols (roster.step (.openMailbox capacity)) :=
  { same with
    reading := by
      rw [openMailbox, List.map_append, same.reading]
      rfl }

theorem enrols_receive (same : hub.Enrols roster) (slot most : Nat) :
    (hub.receive slot most).2.Enrols roster :=
  { same with
    reading := by
      refine Eq.trans ?_ same.reading
      apply List.ext_getElem?
      intro other
      rw [receive, List.getElem?_map, Mailboxes.isOpen_receive, List.getElem?_map] }

theorem enrols_closeMailbox (same : hub.Enrols roster) (slot : Nat) :
    (hub.closeMailbox slot).Enrols (roster.step (.closeMailbox slot)) :=
  { same with
    reading := by
      rw [closeMailbox, Mailboxes.close, Roster.step, ← same.reading]
      apply List.ext_getElem?
      intro other
      rw [List.getElem?_map, List.getElem?_modify, List.getElem?_set, List.getElem?_map]
      by_cases here : slot = other
      · subst here
        rw [if_pos rfl, List.length_map]
        cases present : hub.boxes[slot]? with
        | none => simpa using present
        | some box =>
          obtain ⟨bound, -⟩ := List.getElem?_eq_some_iff.mp present
          simp [bound]
      · rw [if_neg here]
        simp [here] }

theorem enrols_call (same : hub.Enrols roster) (call : Call) :
    (hub.call call).2.Enrols (roster.step call) := by
  cases call with
  | write pairs =>
    exact @relates_write Roster Hub.Enrols Roster.put
      (fun _ _ _ _ value placed current => enrols_put current placed value) hub roster same pairs
  | delete keys =>
    exact @relates_delete Roster Hub.Enrols Roster.erase
      (fun _ _ key current => enrols_drop current key) hub roster same keys
  | subscribe key sink => exact enrols_subscribe same key sink
  | unsubscribe key id => exact enrols_unsubscribe same key id
  | unsubscribeAll id => exact enrols_unsubscribeAll same id
  | openMailbox capacity => exact enrols_openMailbox same capacity
  | receive slot most => exact enrols_receive same slot most
  | closeMailbox slot => exact enrols_closeMailbox same slot
  | read | snapshot | size | subscriberCount => exact same

/-- The roster of a run stays with the hub through the whole run. -/
theorem enrols_after (same : hub.Enrols roster) (calls : List Call) :
    (hub.after calls).Enrols (roster.after calls) := by
  induction calls generalizing hub roster with
  | nil => exact same
  | cons call rest ih => exact ih (enrols_call same call)

/-- After any run of calls from the empty store, with any sinks, the subscribers of every key are
the sinks that the roster of the run relates to it. The next request to subscribe or to unsubscribe
is answered from the roster, taking an identity out everywhere counts its entries, and a key has as
many subscribers as there are identities related to it, never more than the limit. -/
theorem after_subscribers_eq_roster (limit : Nat) (calls : List Call) :
    let hub := (Hub.empty limit).after calls
    let roster := (Roster.empty limit).after calls
    (∀ key, (hub.store.members key).Perm (roster.sinks key)) ∧
    (∀ key sink,
      (hub.call (.subscribe key sink)).1 = .subscribing (roster.subscribing key sink)) ∧
    (∀ key id,
      (hub.call (.unsubscribe key id)).1 = .unsubscribing (roster.unsubscribing key id)) ∧
    (∀ id, (hub.call (.unsubscribeAll id)).1 = .number (roster.subscriptions id)) ∧
    ∀ key, (hub.call (.subscriberCount key)).1 = .number (roster.ids key).length ∧
      (roster.ids key).Nodup ∧ (roster.ids key).length ≤ limit := by
  intro hub roster
  have same : hub.Enrols roster := enrols_after (enrols_empty limit) calls
  refine ⟨same.enrolled, ?_, ?_, ?_, ?_⟩
  · intro key sink
    exact congrArg Answer.subscribing (same.subscribing_eq key sink)
  · intro key id
    exact congrArg Answer.unsubscribing (same.unsubscribing_eq key id)
  · intro id
    exact congrArg Answer.number (same.subscriptions_eq id)
  · intro key
    have within := Store.members_length_le same.represented.sound key
    rw [limit_after, same.size_eq] at within
    refine ⟨?_, same.nodup_ids key, within⟩
    rw [call, Store.subscriberCount_eq, same.size_eq]

end Hub

end WatchedStore
