import WatchedStore.Proofs.Store.Operations

/-! # Runs of calls

Everything that a store can be asked, what it answers, and finite runs of such calls. A batch of
pairs acts through the pairs that nothing is wrong with. Every state that a run reaches from a sound
store is sound, and whatever follows the single puts and deletions follows whole batches.
-/

namespace WatchedStore

/-- What is wrong with a pair, the key before the value. -/
def pairFault? (key value : String) : Option Error :=
  match textFault? key with
  | some fault => some (.invalidKey key fault)
  | none =>
    if bucketOf? key = none then some (.invalidKey key .firstCharacter)
    else (textFault? value).map (.invalidValue key)

/-- The pairs of a batch that nothing is wrong with, in order. -/
def goodPairs (pairs : List (String × String)) : List (String × String) :=
  pairs.filter fun pair => (pairFault? pair.1 pair.2).isNone

/-- Validation finds the bucket of the key or the fault of the pair. -/
theorem validatePair_eq (key value : String) :
    (∃ error, pairFault? key value = some error ∧ validatePair key value = .error error) ∨
      ∃ index, pairFault? key value = none ∧ bucketOf? key = some index ∧
        validatePair key value = .ok index := by
  unfold pairFault? validatePair validateKey validateValue
  cases textFault? key with
  | some fault => exact .inl ⟨_, rfl, rfl⟩
  | none =>
    cases bucketOf? key with
    | none => exact .inl ⟨_, rfl, rfl⟩
    | some index =>
      cases textFault? value with
      | some fault => exact .inl ⟨_, rfl, rfl⟩
      | none => exact .inr ⟨index, rfl, rfl, rfl⟩

theorem rejectedPairs_eq (pairs : List (String × String)) :
    rejectedPairs pairs =
      pairs.filterMap fun pair => (pairFault? pair.1 pair.2).map (Rejection.mk pair.1) := by
  unfold rejectedPairs
  congr 1
  funext pair
  obtain ⟨error, fault, invalid⟩ | ⟨index, fault, -, valid⟩ := validatePair_eq pair.1 pair.2
  · simp only [fault, invalid, Option.map_some]
  · simp only [fault, valid, Option.map_none]

theorem map_snd_acceptedPairs (pairs : List (String × String)) :
    (acceptedPairs pairs).map Prod.snd = goodPairs pairs := by
  induction pairs with
  | nil => rfl
  | cons pair rest ih =>
    unfold acceptedPairs goodPairs at ih ⊢
    rw [List.filterMap_cons, List.filter_cons]
    obtain ⟨error, fault, invalid⟩ | ⟨index, fault, -, valid⟩ := validatePair_eq pair.1 pair.2
    · simp only [fault, invalid, Option.isNone_some, Bool.false_eq_true, ↓reduceIte, ih]
    · simp only [fault, valid, Option.isNone_none, ↓reduceIte, List.map_cons, ih]

theorem mem_acceptedPairs_iff {pairs : List (String × String)} {index : BucketIndex}
    {key value : String} :
    (index, key, value) ∈ acceptedPairs pairs ↔
      (key, value) ∈ pairs ∧ validatePair key value = .ok index := by
  rw [acceptedPairs, List.mem_filterMap]
  constructor
  · rintro ⟨⟨other, given⟩, member, accepted⟩
    dsimp only at accepted
    split at accepted
    · next valid =>
      cases accepted
      exact ⟨member, valid⟩
    · cases accepted
  · rintro ⟨member, valid⟩
    refine ⟨(key, value), member, ?_⟩
    simp only [valid]

theorem validatePair_of_mem_acceptedPairs {pairs : List (String × String)}
    {item : BucketIndex × String × String} (member : item ∈ acceptedPairs pairs) :
    validatePair item.2.1 item.2.2 = .ok item.1 :=
  (mem_acceptedPairs_iff.mp member).2

theorem bucketOf?_of_mem_acceptedPairs {pairs : List (String × String)}
    {item : BucketIndex × String × String} (member : item ∈ acceptedPairs pairs) :
    bucketOf? item.2.1 = some item.1 :=
  (validatePair_eq_ok_iff.mp (validatePair_of_mem_acceptedPairs member)).2.1

/-- Something that a store can be asked. -/
inductive Call
  | write (pairs : List (String × String))
  | read (keys : List String)
  | delete (keys : List String)
  | snapshot
  | size
  | subscriberCount (key : String)
  | subscribe (key : String) (sink : Sink)
  | unsubscribe (key : String) (id : SinkId)
  | unsubscribeAll (id : SinkId)
  /-- A new queue for the notifications of a sink. -/
  | openMailbox (capacity : Nat)
  /-- The reader of a queue takes the oldest notifications out. -/
  | receive (slot most : Nat)
  /-- The reader of a queue goes away. -/
  | closeMailbox (slot : Nat)
deriving DecidableEq, Repr

/-- What a store answers. -/
inductive Answer
  | refused (rejections : List Rejection)
  | values (entries : List (String × Option String))
  | missing (keys : List String)
  | pairs (entries : List (String × String))
  | number (n : Nat)
  | subscribing (outcome : SubscribeOutcome)
  | unsubscribing (outcome : UnsubscribeOutcome)
  | notices (notes : List Notice)
  | done
deriving DecidableEq, Repr

namespace Hub

/-- Answers one call. -/
def call (hub : Hub) : Call → Answer × Hub
  | .write pairs => (.refused (hub.write pairs).answer, (hub.write pairs).hub)
  | .read keys => (.values (hub.store.read keys), hub)
  | .delete keys => (.missing (hub.delete keys).answer, (hub.delete keys).hub)
  | .snapshot => (.pairs hub.store.snapshot, hub)
  | .size => (.number hub.store.size, hub)
  | .subscriberCount key => (.number (hub.store.subscriberCount key), hub)
  | .subscribe key sink => (.subscribing (hub.subscribe key sink).1, (hub.subscribe key sink).2)
  | .unsubscribe key id => (.unsubscribing (hub.unsubscribe key id).1, (hub.unsubscribe key id).2)
  | .unsubscribeAll id => (.number (hub.unsubscribeAll id).1, (hub.unsubscribeAll id).2)
  | .openMailbox capacity => (.number (hub.openMailbox capacity).1, (hub.openMailbox capacity).2)
  | .receive slot most => (.notices (hub.receive slot most).1, (hub.receive slot most).2)
  | .closeMailbox slot => (.done, hub.closeMailbox slot)

/-- The hub after a run of calls. -/
def after (hub : Hub) (calls : List Call) : Hub :=
  calls.foldl (fun hub call => (hub.call call).2) hub

/-- A run of calls, each with its answer. -/
def transcript (hub : Hub) : List Call → List (Call × Answer)
  | [] => []
  | call :: rest => (call, (hub.call call).1) :: transcript (hub.call call).2 rest

theorem transcript_append (hub : Hub) (first second : List Call) :
    hub.transcript (first ++ second) =
      hub.transcript first ++ (hub.after first).transcript second := by
  induction first generalizing hub with
  | nil => rfl
  | cons call rest ih =>
    rw [List.cons_append, transcript, transcript, ih, List.cons_append]
    rfl

theorem map_fst_transcript (hub : Hub) (calls : List Call) :
    (hub.transcript calls).map Prod.fst = calls := by
  induction calls generalizing hub with
  | nil => rfl
  | cons call rest ih => exact congrArg (call :: ·) (ih _)

/-- What every single put keeps, a batch of pairs keeps. -/
theorem relates_write {σ : Type} {relates : Hub → σ → Prop} {step : σ → String → String → σ}
    (keeps : ∀ hub state index key value, bucketOf? key = some index → relates hub state →
      relates (hub.put index key value).hub (step state key value))
    {hub : Hub} {state : σ} (start : relates hub state) (pairs : List (String × String)) :
    relates (hub.write pairs).hub
      ((goodPairs pairs).foldl (fun state pair => step state pair.1 pair.2) state) := by
  rw [hub_write, ← map_snd_acceptedPairs, List.foldl_map]
  apply List.foldl_rel start
  intro item member current state related
  exact keeps current state item.1 item.2.1 item.2.2 (bucketOf?_of_mem_acceptedPairs member) related

/-- What every single deletion keeps, a batch of keys keeps. -/
theorem relates_delete {σ : Type} {relates : Hub → σ → Prop} {step : σ → String → σ}
    (keeps : ∀ hub state key, relates hub state → relates (hub.drop key) (step state key))
    {hub : Hub} {state : σ} (start : relates hub state) (keys : List String) :
    relates (hub.delete keys).hub (keys.foldl step state) := by
  rw [hub_delete]
  apply List.foldl_rel start
  intro key _ current state related
  exact keeps current state key related

/-- Every call keeps a store sound. -/
theorem sound_call {hub : Hub} (sound : hub.store.Sound) (call : Call) :
    (hub.call call).2.store.Sound := by
  cases call with
  | write pairs =>
    exact @relates_write Unit (fun hub _ => hub.store.Sound) (fun _ _ _ => ())
      (fun _ _ _ _ value placed current => sound_put current placed value) hub () sound pairs
  | delete keys =>
    exact @relates_delete Unit (fun hub _ => hub.store.Sound) (fun _ _ => ())
      (fun _ _ key current => sound_drop current key) hub () sound keys
  | subscribe key sink => exact sound.subscribe key sink
  | unsubscribe key id => exact sound.unsubscribe key id
  | unsubscribeAll id => exact sound.unsubscribeAll id
  | read | snapshot | size | subscriberCount | openMailbox | receive | closeMailbox => exact sound

/-- No call changes how many subscribers a key may have. -/
@[simp] theorem limit_call (hub : Hub) (call : Call) :
    (hub.call call).2.store.limit = hub.store.limit := by
  cases call with
  | write pairs =>
    exact @relates_write Unit (fun after _ => after.store.limit = hub.store.limit) (fun _ _ _ => ())
      (fun _ _ _ _ _ _ current => (limit_put ..).trans current) hub () rfl pairs
  | delete keys =>
    exact @relates_delete Unit (fun after _ => after.store.limit = hub.store.limit) (fun _ _ => ())
      (fun _ _ _ current => (limit_drop ..).trans current) hub () rfl keys
  | subscribe key sink => rw [call, store_subscribe, Store.limit_editSubscribers]
  | unsubscribe key id => rw [call, store_unsubscribe, Store.limit_editSubscribers]
  | unsubscribeAll | read | snapshot | size | subscriberCount | openMailbox | receive
  | closeMailbox => rfl

theorem limit_after (hub : Hub) (calls : List Call) :
    (hub.after calls).store.limit = hub.store.limit := by
  induction calls generalizing hub with
  | nil => rfl
  | cons call rest ih => exact (ih _).trans (limit_call hub call)

/-- Every store that a run reaches is sound. -/
theorem sound_after {hub : Hub} (sound : hub.store.Sound) (calls : List Call) :
    (hub.after calls).store.Sound := by
  induction calls generalizing hub with
  | nil => exact sound
  | cons call rest ih => exact ih (sound_call sound call)

/-- A later hub that is sound and has no subscriber that was not one before. -/
structure Retains (hub later : Hub) : Prop where
  sound : later.store.Sound
  known : ∀ key, ∀ sink ∈ later.store.members key, sink ∈ hub.store.members key

theorem Retains.put {hub later : Hub} (retains : hub.Retains later) {index : BucketIndex}
    {key : String} (placed : bucketOf? key = some index) (value : String) :
    hub.Retains (later.put index key value).hub where
  sound := sound_put retains.sound placed value
  known := by
    intro other sink member
    rw [members_put retains.sound placed] at member
    split at member
    · next same => exact same ▸ retains.known key sink (List.mem_of_mem_filter member)
    · exact retains.known other sink member

theorem Retains.drop {hub later : Hub} (retains : hub.Retains later) (key : String) :
    hub.Retains (later.drop key) where
  sound := sound_drop retains.sound key
  known := by
    intro other sink member
    rw [members_drop retains.sound] at member
    split at member
    · exact absurd member List.not_mem_nil
    · exact retains.known other sink member

/-- A call brings in no other subscriber than the sink it hands in. -/
theorem mem_members_of_call {hub : Hub} (sound : hub.store.Sound) {call : Call} {key : String}
    {sink : Sink} (member : sink ∈ (hub.call call).2.store.members key) :
    sink ∈ hub.store.members key ∨ call = .subscribe key sink := by
  have start : hub.Retains hub := ⟨sound, fun _ _ => id⟩
  cases call with
  | write pairs =>
    have retains := @relates_write Unit (fun later _ => hub.Retains later) (fun _ _ _ => ())
      (fun _ _ _ _ value placed current => current.put placed value) hub () start pairs
    exact .inl (retains.known key sink member)
  | delete keys =>
    have retains := @relates_delete Unit (fun later _ => hub.Retains later) (fun _ _ => ())
      (fun _ _ key current => current.drop key) hub () start keys
    exact .inl (retains.known key sink member)
  | subscribe other handed =>
    change sink ∈ (hub.store.subscribe other handed).2.members key at member
    rw [Store.members_subscribe] at member
    split at member
    · next granted =>
      rcases List.mem_cons.mp ((Subscribers.file_perm _ _).mem_iff.mp member) with rfl | present
      · exact .inr (granted.1 ▸ rfl)
      · exact .inl (granted.1 ▸ present)
    · exact .inl member
  | unsubscribe other id =>
    change sink ∈ (hub.store.unsubscribe other id).2.members key at member
    rw [Store.members_unsubscribe] at member
    split at member
    · next same => exact .inl (same ▸ List.mem_of_mem_filter member)
    · exact .inl member
  | unsubscribeAll id =>
    change sink ∈ (hub.store.unsubscribeAll id).2.members key at member
    rw [Store.members_unsubscribeAll] at member
    exact .inl (List.mem_of_mem_filter member)
  | read | snapshot | size | subscriberCount | openMailbox | receive | closeMailbox =>
    exact .inl member

/-- Whoever is subscribed after a run was so before or was handed in by a call of the run. -/
theorem mem_members_of_after {hub : Hub} (sound : hub.store.Sound) {calls : List Call}
    {key : String} {sink : Sink} (member : sink ∈ (hub.after calls).store.members key) :
    sink ∈ hub.store.members key ∨ .subscribe key sink ∈ calls := by
  induction calls generalizing hub with
  | nil => exact .inl member
  | cons call rest ih =>
    rcases ih (sound_call sound call) member with present | handed
    · rcases mem_members_of_call sound present with present | rfl
      · exact .inl present
      · exact .inr List.mem_cons_self
    · exact .inr (List.mem_cons_of_mem _ handed)

end Hub

end WatchedStore
