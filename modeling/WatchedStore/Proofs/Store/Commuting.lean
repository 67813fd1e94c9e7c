import WatchedStore.Proofs.Store.Posts
import WatchedStore.Proofs.Store.Representation

/-! # Calls about different keys change places

Two calls that name no common key may be made in either order. Each finds the nodes of its own keys as
if the other had not been made, so it answers the same, leaves the same nodes and posts the same
notifications. Keys of one bucket share the order in which the bucket is listed, which tells which of
two new keys came first; every bucket that holds keys of one of the calls only is listed the same.
-/

namespace WatchedStore

namespace Hub

section Answers

variable {hub other : Hub} {call : Call} {keys : List String}

/-- The keys that a batch of deletions does not find depend on the nodes of its keys. -/
theorem answer_delete_of_alike (alike : hub.Alike other)
    (same : ∀ key ∈ keys, other.store.node? key = hub.store.node? key) :
    (other.delete keys).answer = (hub.delete keys).answer := by
  induction keys generalizing hub other with
  | nil => rfl
  | cons key rest ih =>
    have later : ((other.drop key).delete rest).answer = ((hub.drop key).delete rest).answer :=
      ih (alike.edit_both (.drop key)) fun next member =>
        isLocal_node?.congr_edit alike (.drop key) (same next (List.mem_cons_of_mem _ member))
    rw [answer_delete_cons, answer_delete_cons, later]
    simp only [Store.held_eq_nil_iff, same key List.mem_cons_self]

/-- What a call about keys answers depends on the nodes of these keys. -/
theorem answer_of_alike (alike : hub.Alike other) (named : call.keys? = some keys)
    (same : ∀ key ∈ keys, other.store.node? key = hub.store.node? key) :
    (other.call call).1 = (hub.call call).1 := by
  cases call with
  | write pairs => rfl
  | read names =>
    cases named
    refine congrArg Answer.values (List.map_congr_left fun key member => ?_)
    rw [Store.value?, Store.value?, same key member]
  | delete names =>
    cases named
    exact congrArg Answer.missing (answer_delete_of_alike alike same)
  | subscriberCount key =>
    cases named
    have members := Store.members_congr (same key List.mem_cons_self)
    exact congrArg Answer.number (by rw [Store.subscriberCount_eq, Store.subscriberCount_eq, members])
  | subscribe key sink =>
    cases named
    refine congrArg Answer.subscribing ?_
    change (other.store.subscribe key sink).1 = (hub.store.subscribe key sink).1
    rw [Store.subscribe_fst, Store.subscribe_fst, same key List.mem_cons_self]
  | unsubscribe key id =>
    cases named
    refine congrArg Answer.unsubscribing ?_
    change (other.store.unsubscribe key id).1 = (hub.store.unsubscribe key id).1
    rw [Store.unsubscribe_fst, Store.unsubscribe_fst, same key List.mem_cons_self]
  | snapshot | size | unsubscribeAll | openMailbox | receive | closeMailbox => cases named

end Answers

section Pairs

variable {hub : Hub} {first second : Call} {keys others : List String}

/-- A call leaves the nodes of the keys that it does not name. -/
theorem node?_call_of_not_mem (sound : hub.store.Sound) (named : second.keys? = some others)
    {key : String} (apart : key ∉ others) :
    (hub.call second).2.store.node? key = hub.store.node? key := by
  rw [hub_call_eq_editAll hub named]
  exact isLocal_node?.frame_all sound fun edit member same =>
    apart (same ▸ key_mem_of_mem_keyEdits named member)

theorem alike_call (sound : hub.store.Sound) (named : second.keys? = some others) :
    hub.Alike (hub.call second).2 := by
  rw [hub_call_eq_editAll hub named]
  exact (Alike.refl sound).editAll second.keyEdits

/-- A call answers the same and posts the same behind a call that names none of its keys. -/
theorem answer_and_posts_behind (sound : hub.store.Sound) (named : first.keys? = some keys)
    (namedOther : second.keys? = some others) (apart : ∀ key ∈ keys, key ∉ others) :
    ((hub.call second).2.call first).1 = (hub.call first).1 ∧
      (hub.call second).2.posts first.keyEdits = hub.posts first.keyEdits := by
  have alike := alike_call sound namedOther
  have same : ∀ key ∈ keys, (hub.call second).2.store.node? key = hub.store.node? key :=
    fun key member => node?_call_of_not_mem sound namedOther (apart key member)
  exact ⟨answer_of_alike alike named same,
    posts_congr alike fun edit member => same _ (key_mem_of_mem_keyEdits named member)⟩

/-- The mailboxes after two calls. -/
theorem boxes_call_call (sound : hub.store.Sound) (named : first.keys? = some keys)
    (namedOther : second.keys? = some others) (apart : ∀ key ∈ others, key ∉ keys) :
    ((hub.call first).2.call second).2.boxes =
      hub.boxes.deliverAll (hub.posts first.keyEdits ++ hub.posts second.keyEdits) := by
  rw [Mailboxes.deliverAll_append, ← (answer_and_posts_behind sound namedOther named apart).2,
    ← boxes_editAll, ← hub_call_eq_editAll hub named, ← boxes_editAll,
    ← hub_call_eq_editAll _ namedOther]

/-- A part of the store that no two keys of the calls both touch is the same after either order. -/
theorem look_call_comm {ι β : Type} {look : Store → ι → β} {touches : String → ι → Prop}
    (isLocal : IsLocal look touches) (sound : hub.store.Sound) (named : first.keys? = some keys)
    (namedOther : second.keys? = some others) {part : ι}
    (apart : ∀ key ∈ keys, ∀ other ∈ others, touches key part → ¬ touches other part) :
    look ((hub.call first).2.call second).2.store part =
      look ((hub.call second).2.call first).2.store part := by
  have run : ∀ {call : Call} {names : List String}, call.keys? = some names → ∀ hub : Hub,
      (hub.call call).2 = hub.editAll call.keyEdits := fun named hub => hub_call_eq_editAll hub named
  simp only [run named, run namedOther]
  exact isLocal.comm sound fun one member other also =>
    apart _ (key_mem_of_mem_keyEdits named member) _ (key_mem_of_mem_keyEdits namedOther also)

end Pairs

theorem IsReachable.after {limit : Nat} {hub : Hub} (reached : IsReachable limit hub)
    (calls : List Call) : IsReachable limit (hub.after calls) :=
  List.foldlRecOn calls _ reached fun _ current call _ => current.call call

theorem IsReachable.sound {limit : Nat} {hub : Hub} (reached : IsReachable limit hub) :
    hub.store.Sound := by
  obtain ⟨calls, rfl⟩ := reached.leadsTo
  exact sound_after (Store.sound_empty limit) calls

/-- Calls about different keys commute, whatever the sinks of the subscribers are. In either order each
call answers the same, every key has the same value or none, and every key has the same subscribers. If
no queue is found full, every mailbox holds the same notifications about every key, in the same order.
If no bucket has keys of both calls, the snapshots are equal. -/
theorem call_comm_of_disjoint {limit : Nat} {hub : Hub} (reached : IsReachable limit hub)
    {first second : Call} {keys others : List String} (named : first.keys? = some keys)
    (namedOther : second.keys? = some others) (apart : ∀ key ∈ keys, key ∉ others) :
    let ahead := (hub.call first).2.call second
    let behind := (hub.call second).2.call first
    behind.1 = (hub.call first).1 ∧ ahead.1 = (hub.call second).1 ∧
    (∀ key, ahead.2.store.value? key = behind.2.store.value? key) ∧
    (∀ key, ahead.2.store.members key = behind.2.store.members key) ∧
    ((∀ id, NeverFull (hub.logOf first ++ (hub.call first).2.logOf second) id) →
      ∀ (slot : Nat) (key : String),
      ahead.2.boxes[slot]?.map (Mailbox.about · key) =
        behind.2.boxes[slot]?.map (Mailbox.about · key)) ∧
    ((∀ key ∈ keys, ∀ other ∈ others, ∀ index,
        ¬ (bucketOf? key = some index ∧ bucketOf? other = some index)) →
      ahead.2.store.snapshot = behind.2.store.snapshot) := by
  intro ahead behind
  have sound := reached.sound
  have apartOther : ∀ key ∈ others, key ∉ keys := fun key member also => apart key also member
  have nodes : ∀ key, ahead.2.store.node? key = behind.2.store.node? key := by
    intro key
    refine look_call_comm isLocal_node? sound named namedOther fun one member other also mine => ?_
    rintro rfl
    exact apart one member (mine ▸ also)
  have postings := answer_and_posts_behind sound namedOther named apartOther
  refine ⟨(answer_and_posts_behind sound named namedOther apart).1, postings.1, fun key => ?_,
    fun key => Store.members_congr (nodes key), fun never slot key => ?_, fun split => ?_⟩
  · rw [Store.value?, Store.value?, nodes]
  · rw [logOf_eq hub named, logOf_eq _ namedOther, postings.2, hub_call_eq_editAll hub named,
      boxes_editAll, ← Mailboxes.logged_append] at never
    rw [boxes_call_call sound named namedOther apartOther, boxes_call_call sound namedOther named apart]
    refine Mailboxes.about_deliverAll_comm never (fun one posted other postedToo same => ?_) slot key
    obtain ⟨edit, member, about⟩ := exists_edit_of_mem_posts posted
    obtain ⟨edit', also, aboutOther⟩ := exists_edit_of_mem_posts postedToo
    refine apart _ (key_mem_of_mem_keyEdits named member) ?_
    rw [← about, same, aboutOther]
    exact key_mem_of_mem_keyEdits namedOther also
  · have limits : ahead.2.store.limit = behind.2.store.limit := by
      rw [limit_call, limit_call, limit_call, limit_call]
    have stores : ahead.2.store = behind.2.store := Store.ext_bucket limits fun index =>
      look_call_comm isLocal_bucket sound named namedOther fun one member other also here there =>
        split one member other also index ⟨here, there⟩
    rw [stores]

/-- Two batches about one bucket and one queue, with a pair refused, a broken sink given up and a
mailbox without a reader: everything is the same in either order but the places of the two new keys.
A third batch about another bucket leaves nothing to tell. -/
theorem call_comm_of_disjoint_in_one_bucket :
    let hub := (empty 2).after [.openMailbox 2, .openMailbox 1, .write [("a", "1"), ("ab", "1")],
      .subscribe "a" ⟨1, .mailbox 0⟩, .subscribe "ab" ⟨1, .mailbox 0⟩,
      .subscribe "ab" ⟨2, .mailbox 1⟩, .subscribe "a" ⟨3, .broken⟩, .closeMailbox 1]
    let first := Call.write [("a", "2"), ("ac", "1"), ("(", "x")]
    let second := Call.write [("ab", "2"), ("ad", "1")]
    let third := Call.delete ["b", "b"]
    let ahead := (hub.call first).2.call second
    let behind := (hub.call second).2.call first
    first.keys? = some ["a", "ac", "("] ∧ second.keys? = some ["ab", "ad"] ∧
    (∀ key ∈ ["a", "ac", "("], key ∉ ["ab", "ad"]) ∧
    behind.1 = (hub.call first).1 ∧ behind.1 = .refused [⟨"(", .invalidKey "(" .reserved⟩] ∧
    ahead.2.store.value? "ad" = behind.2.store.value? "ad" ∧
    ahead.2.store.members "ab" = behind.2.store.members "ab" ∧
    behind.2.store.members "ab" = [⟨1, .mailbox 0⟩] ∧
    ahead.2.boxes[0]?.map (Mailbox.about · "a") = behind.2.boxes[0]?.map (Mailbox.about · "a") ∧
    behind.2.boxes[0]?.map Mailbox.queued = some [.updated "ab" "2", .updated "a" "2"] ∧
    ahead.2.store.snapshot ≠ behind.2.store.snapshot ∧
    ((hub.call first).2.call third).2.store.snapshot =
      ((hub.call third).2.call first).2.store.snapshot := by
  intro hub first second third ahead behind
  have reached : IsReachable 2 hub := .after .empty _
  have apart : ∀ key ∈ ["a", "ac", "("], key ∉ ["ab", "ad"] := by decide
  have logs : hub.logOf first ++ (hub.call first).2.logOf second =
      [.subscriberDropped 3 "a" (.channelClosed .sinkBroken),
        .subscriberDropped 2 "ab" (.channelClosed (.sinkClosed 2))] := by
    decide +kernel
  have never : ∀ id, NeverFull (hub.logOf first ++ (hub.call first).2.logOf second) id := by
    intro id note
    rw [logs]
    simp
  obtain ⟨answer, -, values, members, queues, -⟩ :=
    @call_comm_of_disjoint 2 hub reached first second _ _ rfl rfl apart
  obtain ⟨-, -, -, -, -, listed⟩ :=
    @call_comm_of_disjoint 2 hub reached first third _ _ rfl rfl (by decide)
  refine ⟨rfl, rfl, apart, answer, by decide +kernel, values "ad", members "ab", by decide +kernel,
    queues never 0 "a", by decide +kernel, by decide +kernel, listed ?_⟩
  decide +kernel

end Hub

end WatchedStore
