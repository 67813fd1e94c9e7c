import WatchedStore.Proofs.Store.Run

/-! # The store as one list

A ledger is a single list of pairs in the order in which their keys were created. It knows no
buckets, no nodes and no subscribers. After any run of calls the store answers every write, read,
delete, snapshot and size as the ledger of the run does; the buckets show only in the order of a
snapshot, which is the ledger sorted by bucket without changing the order inside a bucket. What
subscribers are told is not part of a ledger.
-/

namespace WatchedStore

/-- The stored pairs, in the order in which their keys were created. -/
abbrev Ledger := List (String × String)

namespace Ledger

/-- Whether a key is stored. -/
def has (ledger : Ledger) (key : String) : Bool := ledger.any fun entry => entry.1 = key

/-- The value of a key. -/
def value? (ledger : Ledger) (key : String) : Option String :=
  (List.find? (fun entry => entry.1 = key) ledger).map Prod.snd

/-- Puts a pair in the place of the one with its key, or at the end if there is none. -/
def put (ledger : Ledger) (key value : String) : Ledger :=
  if ledger.has key then ledger.map fun entry => if entry.1 = key then (key, value) else entry
  else ledger ++ [(key, value)]

/-- Takes a key out. -/
def erase (ledger : Ledger) (key : String) : Ledger := ledger.filter fun entry => entry.1 ≠ key

/-- Puts the good pairs of a batch in list order. -/
def write (ledger : Ledger) (pairs : List (String × String)) : Ledger :=
  (goodPairs pairs).foldl (fun ledger pair => ledger.put pair.1 pair.2) ledger

/-- Takes the keys of a batch out in list order. -/
def delete (ledger : Ledger) (keys : List String) : Ledger := keys.foldl erase ledger

/-- The keys of a batch that are absent when their turn to be deleted comes. -/
def missing : Ledger → List String → List String
  | _, [] => []
  | ledger, key :: rest =>
    if ledger.has key then missing (ledger.erase key) rest else key :: missing ledger rest

/-- The ledger sorted by bucket; pairs of one bucket keep their order. -/
def snapshot (ledger : Ledger) : List (String × String) :=
  ledger.mergeSort fun a b => bucketRank a.1 ≤ bucketRank b.1

/-- What one call does to the ledger: only writing and deleting change it. -/
def step (ledger : Ledger) : Call → Ledger
  | .write pairs => ledger.write pairs
  | .delete keys => ledger.delete keys
  | _ => ledger

/-- The ledger after a run of calls. -/
def after (ledger : Ledger) (calls : List Call) : Ledger := calls.foldl step ledger

/-- The pairs of one bucket. -/
def inBucket (ledger : Ledger) (index : BucketIndex) : Ledger :=
  ledger.filter fun entry => bucketOf? entry.1 = some index

theorem has_iff {ledger : Ledger} {key : String} :
    ledger.has key = true ↔ ∃ entry ∈ ledger, entry.1 = key := by
  simp [has]

theorem has_inBucket {key : String} {index : BucketIndex} (placed : bucketOf? key = some index)
    (ledger : Ledger) : (ledger.inBucket index).has key = ledger.has key := by
  rw [Bool.eq_iff_iff, has_iff, has_iff]
  constructor
  · rintro ⟨entry, member, same⟩
    exact ⟨entry, List.mem_of_mem_filter member, same⟩
  · rintro ⟨entry, member, rfl⟩
    exact ⟨entry, List.mem_filter.mpr ⟨member, decide_eq_true placed⟩, rfl⟩

theorem value?_inBucket {key : String} {index : BucketIndex} (placed : bucketOf? key = some index)
    (ledger : Ledger) : (ledger.inBucket index).value? key = ledger.value? key := by
  unfold value? inBucket
  rw [List.find?_filter]
  congr 2
  funext entry
  by_cases same : entry.1 = key
  · simp [same, placed]
  · simp [same]

theorem inBucket_put {key : String} {index : BucketIndex} (placed : bucketOf? key = some index)
    (ledger : Ledger) (value : String) (other : BucketIndex) :
    (ledger.put key value).inBucket other =
      if other = index then (ledger.inBucket index).put key value else ledger.inBucket other := by
  have keyKept : (fun entry : String × String => decide (bucketOf? entry.1 = some other)) ∘
      (fun entry => if entry.1 = key then (key, value) else entry) =
      fun entry => decide (bucketOf? entry.1 = some other) := by
    funext entry
    by_cases same : entry.1 = key <;> simp [same]
  by_cases here : other = index
  · subst here
    rw [if_pos rfl]
    unfold put
    rw [has_inBucket placed]
    split
    · rw [inBucket, List.filter_map, keyKept]
      rfl
    · rw [inBucket, List.filter_append, List.filter_singleton, decide_eq_true placed]
      rfl
  · have elsewhere : bucketOf? key ≠ some other := fun equal =>
      here (Option.some.inj (equal.symm.trans placed))
    rw [if_neg here]
    unfold put
    split
    · have unchanged : ∀ entry ∈ ledger.inBucket other,
          (if entry.1 = key then (key, value) else entry) = entry := by
        intro entry member
        have inside : bucketOf? entry.1 = some other :=
          of_decide_eq_true (List.mem_filter.mp member).2
        have apart : entry.1 ≠ key := fun same => elsewhere (same ▸ inside)
        exact if_neg apart
      rw [inBucket, List.filter_map, keyKept, ← inBucket, List.map_congr_left unchanged,
        List.map_id']
    · rw [inBucket, List.filter_append, List.filter_singleton, decide_eq_false elsewhere]
      exact List.append_nil _

theorem erase_of_not_has {ledger : Ledger} {key : String} (absent : ledger.has key = false) :
    ledger.erase key = ledger := by
  apply List.filter_eq_self.mpr
  intro entry member
  refine decide_eq_true fun same => ?_
  rw [has_iff.mpr ⟨entry, member, same⟩] at absent
  cases absent

theorem inBucket_erase (ledger : Ledger) (key : String) (index : BucketIndex) :
    (ledger.erase key).inBucket index = (ledger.inBucket index).erase key := by
  unfold erase inBucket
  rw [List.filter_filter, List.filter_filter]
  congr 1
  funext entry
  exact Bool.and_comm _ _

end Ledger

namespace Store

/-- The pairs of one bucket of a store, oldest first. -/
def entries (store : Store) (index : BucketIndex) : Ledger :=
  (store.bucket index).map fun node => (node.key, node.value)

/-- A sound store has in each bucket what a ledger has there, in the same order. -/
structure Represents (store : Store) (ledger : Ledger) : Prop where
  sound : store.Sound
  filed : ∀ index, store.entries index = ledger.inBucket index
  placed : ∀ entry ∈ ledger, ∃ index, bucketOf? entry.1 = some index

theorem represents_empty (limit : Nat) : (empty limit).Represents [] where
  sound := sound_empty limit
  filed index := by rw [entries, bucket_empty]; rfl
  placed _ member := absurd member List.not_mem_nil

theorem value?_entries (store : Store) (index : BucketIndex) (key : String) :
    (store.entries index).value? key = ((store.bucket index).find? key).map Node.value := by
  unfold entries Ledger.value? Bucket.find?
  rw [List.find?_map, Option.map_map]
  rfl

theorem has_entries (store : Store) (index : BucketIndex) (key : String) :
    (store.entries index).has key = ((store.bucket index).find? key).isSome := by
  unfold entries Ledger.has Bucket.find?
  rw [List.any_map, Bool.eq_iff_iff, List.any_eq_true, List.find?_isSome]
  rfl

theorem has_entries_of_elsewhere {store : Store} (sound : store.Sound) {key : String}
    {index : BucketIndex} (elsewhere : bucketOf? key ≠ some index) :
    (store.entries index).has key = false := by
  rw [← Bool.not_eq_true, Ledger.has_iff]
  rintro ⟨entry, member, same⟩
  obtain ⟨node, present, rfl⟩ := List.mem_map.mp member
  exact elsewhere (same ▸ (sound index).placed node present)

variable {store : Store} {ledger : Ledger}

theorem Represents.value?_eq (same : store.Represents ledger) (key : String) :
    store.value? key = ledger.value? key := by
  unfold value?
  rw [node?_eq_bind]
  cases placed : bucketOf? key with
  | none =>
    have absent : ledger.value? key = none := by
      refine Option.map_eq_none_iff.mpr (List.find?_eq_none.mpr ?_)
      intro entry member
      obtain ⟨index, somewhere⟩ := same.placed entry member
      simp only [decide_eq_true_eq]
      rintro rfl
      exact nomatch placed.symm.trans somewhere
    rw [absent]
    rfl
  | some index =>
    rw [← Ledger.value?_inBucket placed, ← same.filed, value?_entries]
    rfl

/-- A key is stored exactly when the ledger has it. -/
theorem Represents.has_eq (same : store.Represents ledger) (key : String) :
    ledger.has key = (store.node? key).isSome := by
  rw [node?_eq_bind]
  cases placed : bucketOf? key with
  | none =>
    rw [Option.bind_none, Option.isSome_none, ← Bool.not_eq_true, Ledger.has_iff]
    rintro ⟨entry, member, rfl⟩
    obtain ⟨index, somewhere⟩ := same.placed entry member
    exact nomatch placed.symm.trans somewhere
  | some index => rw [Option.bind_some, ← Ledger.has_inBucket placed, ← same.filed, has_entries]

/-- Editing subscribers touches no pair. -/
theorem entries_editSubscribers (sound : store.Sound) (key : String)
    (edit : Subscribers → Subscribers) (index : BucketIndex) :
    (store.editSubscribers key edit).entries index = store.entries index := by
  unfold editSubscribers
  cases found : store.locate? key with
  | none => rfl
  | some place =>
    obtain ⟨here, node⟩ := place
    obtain rfl := key_of_locate? found
    obtain ⟨placed, present⟩ := locate?_eq_some_iff.mp found
    rw [node?_of_placed placed] at present
    unfold entries
    by_cases same : here = index
    · subst same
      rw [bucket_setBucket_self, Bucket.replace, List.map_map]
      apply List.map_congr_left
      intro old member
      by_cases hit : old.key = node.key
      · obtain rfl := (sound here).eq_of_find? present member hit
        simp
      · simp [hit]
    · rw [bucket_setBucket_of_ne same]

theorem entries_unsubscribeAll (store : Store) (id : SinkId) (index : BucketIndex) :
    (store.unsubscribeAll id).2.entries index = store.entries index := by
  unfold entries
  rw [bucket_unsubscribeAll, List.map_map]
  rfl

/-- A snapshot is the ledger in the order of the buckets. -/
theorem Represents.snapshot_eq (same : store.Represents ledger) :
    store.snapshot = ledger.snapshot := by
  rw [Ledger.snapshot, ← flatMap_buckets_eq_mergeSort same.placed, Store.snapshot,
    nodes_eq_flatMap, List.map_flatMap]
  congr 1
  funext index
  exact same.filed index

theorem Represents.size_eq (same : store.Represents ledger) : store.size = ledger.length := by
  have lengths := congrArg List.length same.snapshot_eq
  rw [Store.snapshot, List.length_map, Ledger.snapshot, List.length_mergeSort] at lengths
  exact lengths

/-- A store that has the same pairs and is sound has the same ledger. -/
theorem Represents.of_entries (same : store.Represents ledger) {next : Store} (sound : next.Sound)
    (kept : ∀ index, next.entries index = store.entries index) : next.Represents ledger where
  sound := sound
  filed index := (kept index).trans (same.filed index)
  placed := same.placed

end Store

namespace Hub

variable {hub : Hub} {ledger : Ledger}

theorem represents_put (same : hub.store.Represents ledger) {index : BucketIndex} {key : String}
    (placed : bucketOf? key = some index) (value : String) :
    (hub.put index key value).hub.store.Represents (ledger.put key value) where
  sound := sound_put same.sound placed value
  filed := by
    intro other
    rw [Ledger.inBucket_put placed, ← same.filed, ← same.filed]
    have here : (hub.put index key value).hub.store.entries index =
        (hub.store.entries index).put key value := by
      unfold Ledger.put
      rw [Store.has_entries, ← Store.node?_of_placed placed]
      cases found : hub.store.node? key with
      | none =>
        rw [put_of_absent placed found, Store.entries, Store.bucket_setBucket_self, List.map_append]
        rfl
      | some node =>
        rw [put_of_present placed found, Store.entries, Store.bucket_setBucket_self, Bucket.replace,
          Store.entries, List.map_map]
        simp only [Option.isSome_some, ↓reduceIte, List.map_map]
        apply List.map_congr_left
        intro old _
        by_cases hit : old.key = key <;> simp [hit]
    by_cases equal : other = index
    · rw [if_pos equal, equal, here]
    · have apart : index ≠ other := fun same => equal same.symm
      rw [if_neg equal]
      unfold Store.entries
      cases found : hub.store.node? key with
      | none => rw [put_of_absent placed found, Store.bucket_setBucket_of_ne apart]
      | some node => rw [put_of_present placed found, Store.bucket_setBucket_of_ne apart]
  placed := by
    intro entry member
    unfold Ledger.put at member
    split at member
    · obtain ⟨old, present, rfl⟩ := List.mem_map.mp member
      split
      · exact ⟨index, placed⟩
      · exact same.placed old present
    · rcases List.mem_append.mp member with member | member
      · exact same.placed entry member
      · rw [List.mem_singleton.mp member]
        exact ⟨index, placed⟩

theorem represents_drop (same : hub.store.Represents ledger) (key : String) :
    (hub.drop key).store.Represents (ledger.erase key) where
  sound := sound_drop same.sound key
  filed := by
    intro index
    rw [Ledger.inBucket_erase, ← same.filed]
    by_cases here : bucketOf? key = some index
    · cases found : hub.store.locate? key with
      | none =>
        have absent := Store.locate?_eq_none_iff.mp found
        rw [drop_of_absent absent, Ledger.erase_of_not_has]
        rw [Store.has_entries, ← Store.node?_of_placed here, absent, Option.isSome_none]
      | some place =>
        obtain ⟨home, node⟩ := place
        obtain rfl : home = index :=
          Option.some.inj ((Store.locate?_eq_some_iff.mp found).1.symm.trans here)
        rw [drop_of_located found, Store.entries, Store.bucket_setBucket_self,
          Bucket.erase_eq_filter (same.sound home).distinct, Ledger.erase, Store.entries,
          List.filter_map]
        rfl
    · rw [Ledger.erase_of_not_has (Store.has_entries_of_elsewhere same.sound here)]
      cases found : hub.store.locate? key with
      | none => rw [drop_of_absent (Store.locate?_eq_none_iff.mp found)]
      | some place =>
        have apart : place.1 ≠ index := fun equal =>
          here (equal ▸ (Store.locate?_eq_some_iff.mp found).1)
        rw [drop_of_located found, Store.entries, Store.bucket_setBucket_of_ne apart]
        rfl
  placed entry member := same.placed entry (List.mem_of_mem_filter member)

theorem represents_call (same : hub.store.Represents ledger) (call : Call) :
    (hub.call call).2.store.Represents (ledger.step call) := by
  cases call with
  | write pairs =>
    exact @relates_write Ledger (fun hub ledger => hub.store.Represents ledger) Ledger.put
      (fun _ _ _ _ value placed current => represents_put current placed value) hub ledger same
      pairs
  | delete keys =>
    exact @relates_delete Ledger (fun hub ledger => hub.store.Represents ledger) Ledger.erase
      (fun _ _ key current => represents_drop current key) hub ledger same keys
  | subscribe key sink =>
    refine same.of_entries (same.sound.subscribe key sink) fun index => ?_
    rw [call, store_subscribe]
    exact Store.entries_editSubscribers same.sound key _ index
  | unsubscribe key id =>
    refine same.of_entries (same.sound.unsubscribe key id) fun index => ?_
    rw [call, store_unsubscribe]
    exact Store.entries_editSubscribers same.sound key _ index
  | unsubscribeAll id =>
    exact same.of_entries (same.sound.unsubscribeAll id) (Store.entries_unsubscribeAll hub.store id)
  | read | snapshot | size | subscriberCount | openMailbox | receive | closeMailbox => exact same

/-- The ledger of a run stays with the store through the whole run. -/
theorem represents_after (same : hub.store.Represents ledger) (calls : List Call) :
    (hub.after calls).store.Represents (ledger.after calls) := by
  induction calls generalizing hub ledger with
  | nil => exact same
  | cons call rest ih => exact ih (represents_call same call)

/-- A deletion misses the keys that the ledger misses at their turn. -/
theorem answer_delete (same : hub.store.Represents ledger) (keys : List String) :
    (hub.delete keys).answer = ledger.missing keys := by
  induction keys generalizing hub ledger with
  | nil => rfl
  | cons key rest ih =>
    have later := represents_drop same key
    rw [delete, Ledger.missing, same.has_eq]
    cases found : hub.remove? key with
    | none =>
      rw [remove?_eq_none_iff.mp found]
      exact congrArg (key :: ·) (ih same)
    | some change =>
      have present : hub.store.node? key ≠ none := fun absent => by
        rw [remove?_eq_none_iff.mpr absent] at found
        cases found
      rw [drop, found] at later
      rw [if_pos (Option.isSome_iff_ne_none.mpr present)]
      exact ih later

/-- After any run of calls from the empty store, the next call is answered as the ledger of the run
answers it: a write returns the faulty pairs in order, each with the fault of its key or else of its
value; a read returns one value for each key of the request, in order; a deletion returns the keys
absent at their turn; a snapshot is the ledger sorted by bucket, without changing the order inside
one; and the size is the number of pairs. -/
theorem after_answers_eq_ledger (limit : Nat) (calls : List Call) :
    let hub := (Hub.empty limit).after calls
    let ledger := Ledger.after [] calls
    (∀ pairs, hub.call (.write pairs) =
      (.refused (pairs.filterMap fun pair =>
        (pairFault? pair.1 pair.2).map (Rejection.mk pair.1)), (hub.write pairs).hub)) ∧
    (∀ keys, hub.call (.read keys) =
      (.values (keys.map fun key => (key, ledger.value? key)), hub)) ∧
    (∀ keys, hub.call (.delete keys) = (.missing (ledger.missing keys), (hub.delete keys).hub)) ∧
    hub.call .snapshot =
      (.pairs (ledger.mergeSort fun a b => bucketRank a.1 ≤ bucketRank b.1), hub) ∧
    hub.call .size = (.number ledger.length, hub) := by
  intro hub ledger
  have same : hub.store.Represents ledger :=
    represents_after (Store.represents_empty limit) calls
  refine ⟨?_, ?_, ?_, ?_, ?_⟩
  · intro pairs
    rw [call, ← rejectedPairs_eq]
    rfl
  · intro keys
    simp only [call, Store.read, same.value?_eq]
  · intro keys
    rw [call, answer_delete same]
  · rw [call, same.snapshot_eq, Ledger.snapshot]
  · rw [call, same.size_eq]

end Hub

end WatchedStore
