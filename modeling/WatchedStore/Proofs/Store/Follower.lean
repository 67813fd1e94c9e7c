import WatchedStore.Proofs.Store.Ledger

/-! # What one subscriber is told

A follower watches a run from outside: it sees the calls with their answers, and from them it works
out what the owner of one queue must be told, in order. It knows which keys are stored, to which of
them the sink of the queue is subscribed, and how many notifications wait in the queue, because
those are the ones told and not received. What was received from a queue that stays open, followed
by what is still queued there, is the trace of its follower. Nothing is said about a queue whose
reader goes away or that two sinks share.
-/

namespace WatchedStore

/-- A sink with a queue of its own: its identity, its mailbox, and how much that can hold. -/
structure QueueSink where
  id : SinkId
  slot : Nat
  capacity : Nat
deriving DecidableEq, Repr

namespace QueueSink

/-- The handle on the queue. -/
def sink (queue : QueueSink) : Sink := ⟨queue.id, .mailbox queue.slot⟩

/-- Whether a sink has the identity or the mailbox of the queue. -/
def Meets (queue : QueueSink) (sink : Sink) : Prop :=
  sink.id = queue.id ∨ sink.outlet = .mailbox queue.slot

/-- A call that subscribes no second sink with the identity or the mailbox of the queue, and after
which the queue is still read. -/
def Permits (queue : QueueSink) : Call → Prop
  | .subscribe _ sink => queue.Meets sink → sink = queue.sink
  | .closeMailbox slot => slot ≠ queue.slot
  | _ => True

theorem meets_sink (queue : QueueSink) : queue.Meets queue.sink := .inl rfl

end QueueSink

/-- What an observer of one queue knows. -/
structure Follower where
  /-- The stored pairs. -/
  ledger : Ledger
  /-- The keys to which the sink is subscribed. -/
  watched : List String
  /-- What the owner of the queue must be told so far. -/
  trace : List Notice
  /-- What was received from the queue so far. -/
  received : List Notice
deriving DecidableEq, Repr

namespace Follower

/-- A follower of a new queue. -/
def start (ledger : Ledger) : Follower := ⟨ledger, [], [], []⟩

variable (queue : QueueSink) (follower : Follower)

/-- The trace after a change of a key. The change is told if the key was stored and the sink
subscribed to it, and is lost if as much as the queue can hold is told and not received. -/
def heard (note : Notice) : List Notice :=
  if follower.ledger.has note.key ∧ note.key ∈ follower.watched ∧
      follower.trace.length - follower.received.length < queue.capacity then
    follower.trace ++ [note]
  else follower.trace

/-- Takes in that a pair is stored. -/
def put (key value : String) : Follower :=
  { follower with
    ledger := follower.ledger.put key value
    trace := follower.heard queue (.updated key value) }

/-- Takes in that a key is deleted; this ends the subscription to it. -/
def erase (key : String) : Follower :=
  { follower with
    ledger := follower.ledger.erase key
    watched := follower.watched.filter fun watched => watched ≠ key
    trace := follower.heard queue (.deleted key) }

/-- Takes in one call and its answer. -/
def step : Call × Answer → Follower
  | (.write pairs, _) =>
    (goodPairs pairs).foldl (fun follower pair => follower.put queue pair.1 pair.2) follower
  | (.delete keys, _) => keys.foldl (fun follower key => follower.erase queue key) follower
  | (.subscribe key sink, .subscribing .subscribed) =>
    if sink = queue.sink then { follower with watched := key :: follower.watched } else follower
  | (.unsubscribe key id, _) =>
    if id = queue.id then
      { follower with watched := follower.watched.filter fun watched => watched ≠ key }
    else follower
  | (.unsubscribeAll id, _) =>
    if id = queue.id then { follower with watched := [] } else follower
  | (.receive slot _, .notices notes) =>
    if slot = queue.slot then { follower with received := follower.received ++ notes }
    else follower
  | _ => follower

/-- Takes in a run of calls with their answers. -/
def follow (transcript : List (Call × Answer)) : Follower :=
  transcript.foldl (fun follower entry => follower.step queue entry) follower

variable {queue : QueueSink} {follower : Follower} {key : String}

/-- A later stage of a follower that does not watch a key and has heard no more about it. -/
structure Quiet (key : String) (earlier later : Follower) : Prop where
  unwatched : key ∉ later.watched
  silent : ∃ news, later.trace = earlier.trace ++ news ∧ ∀ note ∈ news, note.key ≠ key

theorem Quiet.trans {first second third : Follower} (early : Quiet key first second)
    (late : Quiet key second third) : Quiet key first third := by
  obtain ⟨earlyNews, earlyTrace, earlyOther⟩ := early.silent
  obtain ⟨lateNews, lateTrace, lateOther⟩ := late.silent
  refine ⟨late.unwatched, earlyNews ++ lateNews, ?_, ?_⟩
  · rw [lateTrace, earlyTrace, List.append_assoc]
  · intro note member
    rcases List.mem_append.mp member with member | member
    · exact earlyOther note member
    · exact lateOther note member

theorem quiet_of_trace_eq {later : Follower} (unwatched : key ∉ later.watched)
    (same : later.trace = follower.trace) : Quiet key follower later where
  unwatched := unwatched
  silent := ⟨[], by rw [same, List.append_nil], fun _ member => absurd member List.not_mem_nil⟩

/-- Every stage is quiet when every single one is. -/
theorem quiet_foldl {α : Type} {step : Follower → α → Follower} {items : List α}
    (unwatched : key ∉ follower.watched)
    (keeps : ∀ item ∈ items, ∀ current : Follower, key ∉ current.watched →
      Quiet key current (step current item)) :
    Quiet key follower (items.foldl step follower) := by
  induction items generalizing follower with
  | nil => exact quiet_of_trace_eq unwatched rfl
  | cons item rest ih =>
    have now := keeps item List.mem_cons_self follower unwatched
    exact now.trans
      (ih now.unwatched fun later member => keeps later (List.mem_cons_of_mem _ member))

theorem heard_of_not_mem (unwatched : key ∉ follower.watched) (note : Notice) :
    ∃ news, follower.heard queue note = follower.trace ++ news ∧ ∀ note ∈ news, note.key ≠ key := by
  unfold heard
  split
  · next told =>
    refine ⟨[note], rfl, fun other member same => unwatched ?_⟩
    rw [List.mem_singleton.mp member] at same
    exact same ▸ told.2.1
  · exact ⟨[], (List.append_nil _).symm, fun _ member => absurd member List.not_mem_nil⟩

/-- Without a subscription to it, a key that is not watched stays so and is not heard of. -/
theorem quiet_step (unwatched : key ∉ follower.watched) {entry : Call × Answer}
    (other : ∀ sink, entry.1 ≠ .subscribe key sink) :
    Quiet key follower (follower.step queue entry) := by
  unfold step
  split
  · refine quiet_foldl unwatched fun pair _ current unwatched => ⟨unwatched, ?_⟩
    exact heard_of_not_mem unwatched (.updated pair.1 pair.2)
  · refine quiet_foldl unwatched fun gone _ current unwatched => ⟨?_, ?_⟩
    · exact fun member => unwatched (List.mem_of_mem_filter member)
    · exact heard_of_not_mem unwatched (.deleted gone)
  · next subscribed sink =>
    split
    · refine quiet_of_trace_eq (fun member => ?_) rfl
      rcases List.mem_cons.mp member with rfl | member
      · exact other sink rfl
      · exact unwatched member
    · exact quiet_of_trace_eq unwatched rfl
  · split
    · exact quiet_of_trace_eq (fun member => unwatched (List.mem_of_mem_filter member)) rfl
    · exact quiet_of_trace_eq unwatched rfl
  · split
    · exact quiet_of_trace_eq List.not_mem_nil rfl
    · exact quiet_of_trace_eq unwatched rfl
  · split
    · exact quiet_of_trace_eq unwatched rfl
    · exact quiet_of_trace_eq unwatched rfl
  · exact quiet_of_trace_eq unwatched rfl

theorem watched_foldl_erase (queue : QueueSink) (follower : Follower) (keys : List String) :
    (keys.foldl (fun follower key => follower.erase queue key) follower).watched =
      follower.watched.filter fun key => key ∉ keys := by
  induction keys generalizing follower with
  | nil => simp
  | cons key rest ih =>
    rw [List.foldl_cons, ih, erase, List.filter_filter]
    apply List.filter_congr
    intro watched _
    simp [Bool.and_comm]

theorem follow_append (queue : QueueSink) (follower : Follower)
    (first second : List (Call × Answer)) :
    follower.follow queue (first ++ second) = (follower.follow queue first).follow queue second :=
  List.foldl_append

end Follower

namespace Hub

/-- A hub is where a follower believes it to be: the pairs are its ledger, the sink is subscribed to
the keys that it watches, no other sink has the identity or the mailbox of the queue, and the queue
is open and holds what was told and not received. -/
structure Follows (queue : QueueSink) (hub : Hub) (follower : Follower) : Prop where
  represented : hub.store.Represents follower.ledger
  watching : ∀ key, queue.sink ∈ hub.store.members key ↔ key ∈ follower.watched
  sole : ∀ key, ∀ member ∈ hub.store.members key, queue.Meets member → member = queue.sink
  waiting : ∃ queued, hub.boxes[queue.slot]? = some ⟨queue.capacity, queued, true⟩ ∧
    follower.received ++ queued = follower.trace

variable {queue : QueueSink} {hub : Hub} {follower : Follower}

/-- A sink that reads is not given up. -/
theorem Follows.accepts (same : hub.Follows queue follower) :
    hub.boxes.accepts queue.sink = true := by
  obtain ⟨queued, present, -⟩ := same.waiting
  simp only [Mailboxes.accepts, QueueSink.sink, present, Option.map_some, Option.getD_some]

/-- Only a stored key is watched. -/
theorem Follows.has_of_mem (same : hub.Follows queue follower) {key : String}
    (watched : key ∈ follower.watched) : follower.ledger.has key = true := by
  have member := (same.watching key).mpr watched
  rw [same.represented.has_eq]
  cases found : hub.store.node? key with
  | none =>
    rw [Store.members_of_absent found] at member
    exact absurd member List.not_mem_nil
  | some node => rfl

/-- A broadcast to the members of a key reaches the queue as its follower expects: once if the sink
is subscribed and there is room, and else not at all. -/
theorem Follows.waiting_heard (same : hub.Follows queue follower) (note : Notice) :
    ∃ queued,
      (broadcastTo note (hub.store.members note.key) hub.boxes).boxes[queue.slot]? =
        some ⟨queue.capacity, queued, true⟩ ∧
      follower.received ++ queued = follower.heard queue note := by
  obtain ⟨queued, present, told⟩ := same.waiting
  have size : follower.trace.length - follower.received.length = queued.length := by
    rw [← told, List.length_append, Nat.add_sub_cancel_left]
  unfold Follower.heard
  rw [size]
  by_cases watched : note.key ∈ follower.watched
  · have once := same.represented.sound.nodup_members note.key
    have sole : ∀ sink ∈ hub.store.members note.key, sink.outlet = .mailbox queue.slot →
        sink = queue.sink :=
      fun sink member leads => same.sole note.key sink member (.inr leads)
    rw [getElem?_broadcastTo_of_mem once ((same.watching note.key).mpr watched) sole present]
    by_cases room : queued.length < queue.capacity
    · refine ⟨queued ++ [note], ?_, ?_⟩
      · simp [Mailbox.offer, room]
      · rw [if_pos ⟨same.has_of_mem watched, watched, room⟩, ← List.append_assoc, told]
    · refine ⟨queued, ?_, ?_⟩
      · simp [Mailbox.offer, room]
      · rw [if_neg fun all => room all.2.2, told]
  · refine ⟨queued, ?_, ?_⟩
    · rw [getElem?_broadcastTo_of_forall_ne, present]
      intro sink member leads
      have itself := same.sole note.key sink member (.inr leads)
      exact watched ((same.watching note.key).mp (itself ▸ member))
    · rw [if_neg fun all => watched all.2.1, told]

theorem follows_put (same : hub.Follows queue follower) {index : BucketIndex} {key : String}
    (placed : bucketOf? key = some index) (value : String) :
    (hub.put index key value).hub.Follows queue (follower.put queue key value) where
  represented := represents_put same.represented placed value
  watching := by
    intro other
    rw [members_put same.represented.sound placed]
    split
    · next here =>
      rw [List.mem_filter, here]
      exact (and_iff_left same.accepts).trans (same.watching key)
    · exact same.watching other
  sole := by
    intro other member present
    rw [members_put same.represented.sound placed] at present
    split at present
    · exact same.sole key member (List.mem_of_mem_filter present)
    · exact same.sole other member present
  waiting := by
    rw [boxes_put placed]
    exact same.waiting_heard (.updated key value)

theorem follows_drop (same : hub.Follows queue follower) (key : String) :
    (hub.drop key).Follows queue (follower.erase queue key) where
  represented := represents_drop same.represented key
  watching := by
    intro other
    rw [members_drop same.represented.sound]
    simp only [Follower.erase, List.mem_filter, decide_eq_true_eq]
    split
    · next here => simp [here]
    · next apart =>
      rw [same.watching other]
      exact (and_iff_left apart).symm
  sole := by
    intro other member present
    rw [members_drop same.represented.sound] at present
    split at present
    · exact absurd present List.not_mem_nil
    · exact same.sole other member present
  waiting := by
    rw [boxes_drop]
    exact same.waiting_heard (.deleted key)

/-- No permitted call brings in a second sink that meets the queue. -/
theorem Follows.sole_call (same : hub.Follows queue follower) {call : Call}
    (permitted : queue.Permits call) (key : String) (member : Sink)
    (present : member ∈ (hub.call call).2.store.members key) (meets : queue.Meets member) :
    member = queue.sink := by
  rcases mem_members_of_call same.represented.sound present with old | rfl
  · exact same.sole key member old meets
  · exact permitted meets

theorem follows_subscribe (same : hub.Follows queue follower) (key : String) {sink : Sink}
    (permitted : queue.Permits (.subscribe key sink)) :
    (hub.subscribe key sink).2.Follows queue
      (follower.step queue (.subscribe key sink, .subscribing (hub.subscribe key sink).1)) := by
  have represented := represents_call same.represented (.subscribe key sink)
  have members := hub.store.members_subscribe key sink
  have sole := same.sole_call permitted
  cases outcome : (hub.subscribe key sink).1 with
  | subscribed =>
    have granted : (hub.store.subscribe key sink).1 = .subscribed := outcome
    have joined : ∀ other, queue.sink ∈ (hub.store.subscribe key sink).2.members other ↔
        (other = key ∧ queue.sink = sink) ∨ queue.sink ∈ hub.store.members other := by
      intro other
      rw [members]
      by_cases here : other = key
      · rw [if_pos ⟨here, granted⟩, (Subscribers.file_perm _ _).mem_iff, List.mem_cons, here]
        simp
      · rw [if_neg fun both => here both.1]
        simp [here]
    by_cases own : sink = queue.sink
    · rw [Follower.step, if_pos own]
      refine ⟨represented, fun other => (joined other).trans ?_, sole, same.waiting⟩
      rw [same.watching, own, List.mem_cons, and_iff_left rfl]
    · rw [Follower.step, if_neg own]
      refine ⟨represented, fun other => (joined other).trans ?_, sole, same.waiting⟩
      rw [same.watching]
      exact or_iff_right fun both => own both.2.symm
  | alreadySubscribed | keyNotFound | limitReached =>
    refine ⟨represented, fun other => ?_, sole, same.waiting⟩
    have refused : (hub.store.subscribe key sink).1 ≠ .subscribed := fun granted =>
      nomatch outcome.symm.trans granted
    change queue.sink ∈ (hub.store.subscribe key sink).2.members other ↔ _
    rw [members, if_neg fun both => refused both.2]
    exact same.watching other

theorem follows_unsubscribe (same : hub.Follows queue follower) (key : String) (id : SinkId) :
    (hub.unsubscribe key id).2.Follows queue
      (follower.step queue (.unsubscribe key id, .unsubscribing (hub.unsubscribe key id).1)) := by
  have represented := represents_call same.represented (.unsubscribe key id)
  have permitted : queue.Permits (.unsubscribe key id) := trivial
  have sole := same.sole_call permitted
  have stays : ∀ other, queue.sink ∈ (hub.store.unsubscribe key id).2.members other ↔
      queue.sink ∈ hub.store.members other ∧ (other = key → queue.id ≠ id) := by
    intro other
    rw [Store.members_unsubscribe]
    by_cases here : other = key
    · simp [here, QueueSink.sink]
    · simp [here]
  by_cases own : id = queue.id
  · rw [Follower.step, if_pos own]
    refine ⟨represented, fun other => (stays other).trans ?_, sole, same.waiting⟩
    simp only [same.watching, own, ne_eq, not_true_eq_false, imp_false, List.mem_filter,
      decide_not, Bool.not_eq_true', decide_eq_false_iff_not]
  · rw [Follower.step, if_neg own]
    refine ⟨represented, fun other => (stays other).trans ?_, sole, same.waiting⟩
    rw [same.watching]
    exact and_iff_left fun _ equal => own equal.symm

theorem follows_unsubscribeAll (same : hub.Follows queue follower) (id : SinkId) :
    (hub.unsubscribeAll id).2.Follows queue
      (follower.step queue (.unsubscribeAll id, .number (hub.unsubscribeAll id).1)) := by
  have represented := represents_call same.represented (.unsubscribeAll id)
  have permitted : queue.Permits (.unsubscribeAll id) := trivial
  have sole := same.sole_call permitted
  have stays : ∀ key, queue.sink ∈ (hub.store.unsubscribeAll id).2.members key ↔
      queue.sink ∈ hub.store.members key ∧ queue.id ≠ id := by
    intro key
    rw [Store.members_unsubscribeAll, List.mem_filter, decide_eq_true_iff]
    rfl
  by_cases own : id = queue.id
  · rw [Follower.step, if_pos own]
    refine ⟨represented, fun key => (stays key).trans ?_, sole, same.waiting⟩
    simp [own]
  · rw [Follower.step, if_neg own]
    refine ⟨represented, fun key => (stays key).trans ?_, sole, same.waiting⟩
    rw [same.watching]
    exact and_iff_left fun equal => own equal.symm

theorem follows_openMailbox (same : hub.Follows queue follower) (capacity : Nat) :
    (hub.openMailbox capacity).2.Follows queue follower :=
  { same with
    waiting := by
      obtain ⟨queued, present, told⟩ := same.waiting
      obtain ⟨bound, -⟩ := List.getElem?_eq_some_iff.mp present
      refine ⟨queued, ?_, told⟩
      rw [openMailbox, List.getElem?_append_left bound, present] }

theorem follows_receive (same : hub.Follows queue follower) (slot most : Nat) :
    (hub.receive slot most).2.Follows queue
      (follower.step queue (.receive slot most, .notices (hub.receive slot most).1)) := by
  obtain ⟨queued, present, told⟩ := same.waiting
  by_cases here : slot = queue.slot
  · subst here
    obtain ⟨bound, -⟩ := List.getElem?_eq_some_iff.mp present
    rw [Follower.step, if_pos rfl]
    refine ⟨same.represented, same.watching, same.sole, queued.drop most, ?_, ?_⟩
    · simp only [receive, Mailboxes.receive, present, List.getElem?_set_self bound]
    · simp only [receive, Mailboxes.receive, present, List.append_assoc, List.take_append_drop,
        told]
  · rw [Follower.step, if_neg here]
    refine ⟨same.represented, same.watching, same.sole, queued, ?_, told⟩
    rw [receive, Mailboxes.getElem?_receive_of_ne here, present]

theorem follows_closeMailbox (same : hub.Follows queue follower) {slot : Nat}
    (other : slot ≠ queue.slot) : (hub.closeMailbox slot).Follows queue follower :=
  { same with
    waiting := by
      obtain ⟨queued, present, told⟩ := same.waiting
      refine ⟨queued, ?_, told⟩
      rw [closeMailbox, Mailboxes.getElem?_close_of_ne other, present] }

theorem follows_call (same : hub.Follows queue follower) {call : Call}
    (permitted : queue.Permits call) :
    (hub.call call).2.Follows queue (follower.step queue (call, (hub.call call).1)) := by
  cases call with
  | write pairs =>
    exact @relates_write Follower (Hub.Follows queue) (Follower.put queue)
      (fun _ _ _ _ value placed current => follows_put current placed value) hub follower same pairs
  | delete keys =>
    exact @relates_delete Follower (Hub.Follows queue) (Follower.erase queue)
      (fun _ _ key current => follows_drop current key) hub follower same keys
  | subscribe key sink => exact follows_subscribe same key permitted
  | unsubscribe key id => exact follows_unsubscribe same key id
  | unsubscribeAll id => exact follows_unsubscribeAll same id
  | openMailbox capacity => exact follows_openMailbox same capacity
  | receive slot most => exact follows_receive same slot most
  | closeMailbox slot => exact follows_closeMailbox same permitted
  | read | snapshot | size | subscriberCount => exact same

/-- A follower keeps up with the hub through a whole run. -/
theorem follows_after (same : hub.Follows queue follower) {calls : List Call}
    (permitted : ∀ call ∈ calls, queue.Permits call) :
    (hub.after calls).Follows queue (follower.follow queue (hub.transcript calls)) := by
  induction calls generalizing hub follower with
  | nil => exact same
  | cons call rest ih =>
    exact ih (follows_call same (permitted call List.mem_cons_self))
      fun later member => permitted later (List.mem_cons_of_mem _ member)

/-- A queue that nobody has been subscribed with is followed from its opening on. -/
theorem follows_start {limit : Nat} {before : List Call}
    (fresh : ∀ key sink, .subscribe key sink ∈ before → ¬ queue.Meets sink)
    (opened : ((empty limit).after before).openMailbox queue.capacity = (queue.slot, hub)) :
    hub.Follows queue (Follower.start (Ledger.after [] before)) := by
  have represented : ((empty limit).after before).store.Represents (Ledger.after [] before) :=
    represents_after (Store.represents_empty limit) before
  have strangers : ∀ key, ∀ member ∈ ((empty limit).after before).store.members key,
      ¬ queue.Meets member := by
    intro key member present
    rcases mem_members_of_after (Store.sound_empty limit) present with none | handed
    · rw [empty, Store.members_empty] at none
      exact absurd none List.not_mem_nil
    · exact fresh key member handed
  obtain ⟨slot_eq, rfl⟩ := Prod.mk.inj opened
  refine ⟨represented, fun key => ⟨fun member => ?_, fun none => absurd none List.not_mem_nil⟩,
    fun key member present meets => absurd meets (strangers key member present), [], ?_, rfl⟩
  · exact absurd queue.meets_sink (strangers key queue.sink member)
  · rw [← slot_eq]
    exact List.getElem?_concat_length ..

/-- A run without a subscription to a key adds nothing about it while it is not watched. -/
theorem quiet_follow {key : String} (unwatched : key ∉ follower.watched) (hub : Hub)
    {calls : List Call} (none : ∀ sink, .subscribe key sink ∉ calls) :
    follower.Quiet key (follower.follow queue (hub.transcript calls)) := by
  refine Follower.quiet_foldl unwatched fun entry member current unwatched => ?_
  refine Follower.quiet_step unwatched fun sink same => none sink ?_
  rw [← same, ← map_fst_transcript hub calls]
  exact List.mem_map_of_mem member

theorem not_mem_watched_of_delete {keys : List String} {key : String} (deleted : key ∈ keys)
    (hub : Hub) (first : List Call) :
    key ∉ (follower.follow queue (hub.transcript (first ++ [.delete keys]))).watched := by
  rw [transcript_append, Follower.follow_append]
  change key ∉ (keys.foldl (fun follower key => Follower.erase queue follower key) _).watched
  rw [Follower.watched_foldl_erase]
  intro watched
  exact of_decide_eq_true (List.mem_filter.mp watched).2 deleted

/-- Whoever reads a queue of a sink of its own is told exactly what its follower says. The run is
any calls from the empty store: some before the queue is opened, then the opening, then some during
which the queue is read. What was received so far, followed by what is still queued, is the trace.
From the deletion of a key until the next subscription to it nothing about the key is added. -/
theorem received_append_queued_eq_trace {limit : Nat} {queue : QueueSink} {hub : Hub}
    {before after : List Call}
    (fresh : ∀ key sink, .subscribe key sink ∈ before → ¬ queue.Meets sink)
    (opened : ((empty limit).after before).openMailbox queue.capacity = (queue.slot, hub))
    (permitted : ∀ call ∈ after, queue.Permits call) :
    let follow calls :=
      (Follower.start (Ledger.after [] before)).follow queue (hub.transcript calls)
    (∃ queued, (hub.after after).boxes[queue.slot]? = some ⟨queue.capacity, queued, true⟩ ∧
      (follow after).received ++ queued = (follow after).trace) ∧
    ∀ first keys second key, after = first ++ .delete keys :: second → key ∈ keys →
      (∀ sink, .subscribe key sink ∉ second) →
      ∃ news, (follow after).trace = (follow (first ++ [.delete keys])).trace ++ news ∧
        ∀ note ∈ news, note.key ≠ key := by
  intro follow
  refine ⟨(follows_after (follows_start fresh opened) permitted).waiting, ?_⟩
  rintro first keys second key rfl deleted none
  have unwatched : key ∉ (follow (first ++ [.delete keys])).watched :=
    not_mem_watched_of_delete deleted hub first
  have quiet :=
    @quiet_follow queue _ key unwatched (hub.after (first ++ [.delete keys])) second none
  have whole : follow (first ++ .delete keys :: second) = (follow (first ++ [.delete keys])).follow
      queue ((hub.after (first ++ [.delete keys])).transcript second) := by
    rw [← Follower.follow_append, ← transcript_append, List.append_assoc, List.singleton_append]
  rw [whole]
  exact quiet.silent

/-- A queue of one place: of two new values one is lost, the reader makes room for the deletion, and
the key that is created again is a stranger. -/
theorem received_append_queued_of_one_place :
    let hub := (((empty 4).after [.write [("apple", "red")]]).openMailbox 1).2
    let first := [.subscribe "apple" ⟨7, .mailbox 0⟩,
      .write [("apple", "green"), ("apple", "blue")], .receive 0 5]
    let calls := first ++ [.delete ["apple"], .write [("apple", "red"), ("apple", "green")]]
    let follow calls :=
      (Follower.start [("apple", "red")]).follow ⟨7, 0, 1⟩ (hub.transcript calls)
    (follow calls).received = [.updated "apple" "green"] ∧
    (follow calls).trace = [.updated "apple" "green", .deleted "apple"] ∧
    (∃ queued, (hub.after calls).boxes[0]? = some ⟨1, queued, true⟩ ∧
      (follow calls).received ++ queued = (follow calls).trace) ∧
    ∃ news, (follow calls).trace = (follow (first ++ [.delete ["apple"]])).trace ++ news ∧
      ∀ note ∈ news, note.key ≠ "apple" := by
  intro hub first calls follow
  have ledger : Ledger.after [] [.write [("apple", "red")]] = [("apple", "red")] := by
    decide +kernel
  have permitted : ∀ call ∈ calls, QueueSink.Permits ⟨7, 0, 1⟩ call := by
    simp [calls, first, QueueSink.Permits, QueueSink.sink]
  have followed := @received_append_queued_eq_trace 4 ⟨7, 0, 1⟩ hub [.write [("apple", "red")]]
    calls (by simp) rfl permitted
  rw [ledger] at followed
  refine ⟨by decide +kernel, by decide +kernel, followed.1, ?_⟩
  exact followed.2 first ["apple"] [.write [("apple", "red"), ("apple", "green")]] "apple" rfl
    (by simp) (by simp)

end Hub

end WatchedStore
