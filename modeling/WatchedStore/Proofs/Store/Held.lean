import Mathlib.Data.List.Count
import Mathlib.Logic.Function.Basic
import WatchedStore.Proofs.Store.Run

/-! # What a key holds

The values that stand under one key of a store. Only the first one shows, and where the store came
about by calls there is no second one. Every edit of the store acts on each key by itself: what a key
holds afterwards depends on what it held before and on the items of the batch with this key, and on
nothing else. All of this holds of any store, in order or not.
-/

namespace WatchedStore

namespace Bucket

/-- The values under one key, oldest first. -/
def held (bucket : Bucket) (key : String) : List String :=
  (bucket.filter fun node => node.key = key).map Node.value

variable {bucket : Bucket} {key other : String}

theorem held_eq_nil_iff : bucket.held key = [] ↔ bucket.find? key = none := by
  simp [held, find?]

theorem head?_held (bucket : Bucket) (key : String) :
    (bucket.held key).head? = (bucket.find? key).map Node.value := by
  rw [held, List.head?_map, List.head?_filter, find?]

theorem held_push (bucket : Bucket) (node : Node) (key : String) :
    held (bucket ++ [node]) key =
      bucket.held key ++ if node.key = key then [node.value] else [] := by
  unfold held
  rw [List.filter_append, List.map_append]
  by_cases same : node.key = key <;> simp [same]

theorem held_replace_self (bucket : Bucket) (node : Node) :
    (bucket.replace node).held node.key = (bucket.held node.key).map fun _ => node.value := by
  induction bucket with
  | nil => rfl
  | cons first rest ih =>
    unfold held replace at ih ⊢
    by_cases same : first.key = node.key <;> simp [same, ih]

theorem held_replace_of_ne (bucket : Bucket) {node : Node} (apart : node.key ≠ key) :
    (bucket.replace node).held key = bucket.held key := by
  induction bucket with
  | nil => rfl
  | cons first rest ih =>
    unfold held replace at ih ⊢
    by_cases same : first.key = node.key
    · simp [same, apart, ih]
    · simp only [List.map_cons, if_neg same, List.filter_cons]
      split
      · rw [List.map_cons, List.map_cons, ih]
      · exact ih

theorem held_erase_self (bucket : Bucket) (key : String) :
    (bucket.erase key).held key = (bucket.held key).tail := by
  induction bucket with
  | nil => rfl
  | cons first rest ih =>
    unfold held erase at ih ⊢
    by_cases same : first.key = key
    · simp [same]
    · simp [same, ih]

theorem held_erase_of_ne (bucket : Bucket) (apart : key ≠ other) :
    (bucket.erase key).held other = bucket.held other := by
  induction bucket with
  | nil => rfl
  | cons first rest ih =>
    unfold held erase at ih ⊢
    by_cases same : first.key = key
    · simp [same, apart]
    · simp only [List.eraseP_cons, same, decide_false, cond_false, List.filter_cons]
      split
      · rw [List.map_cons, List.map_cons, ih]
      · exact ih

end Bucket

namespace Store

/-- The values under a key in its bucket. -/
def held (store : Store) (key : String) : List String :=
  match bucketOf? key with
  | none => []
  | some index => (store.bucket index).held key

variable {store : Store} {key : String} {index : BucketIndex}

theorem held_of_placed (store : Store) (placed : bucketOf? key = some index) :
    store.held key = (store.bucket index).held key := by
  rw [held, placed]

/-- The first value is the one that is read. -/
theorem head?_held (store : Store) (key : String) : (store.held key).head? = store.value? key := by
  rw [value?, node?_eq_bind, held]
  cases bucketOf? key with
  | none => rfl
  | some index => exact Bucket.head?_held _ key

theorem held_eq_nil_iff : store.held key = [] ↔ store.node? key = none := by
  rw [node?_eq_bind, held]
  cases bucketOf? key with
  | none => simp
  | some index => exact Bucket.held_eq_nil_iff

/-- Another bucket changes what the keys of its own hold and nothing else. -/
theorem held_setBucket (store : Store) (index : BucketIndex) (bucket : Bucket) (key : String) :
    (store.setBucket index bucket).held key =
      if bucketOf? key = some index then bucket.held key else store.held key := by
  unfold held
  cases placed : bucketOf? key with
  | none => rfl
  | some other =>
    by_cases same : index = other
    · subst same
      simp only [bucket_setBucket_self, ↓reduceIte]
    · rw [if_neg fun equal => same (Option.some.inj equal).symm]
      simp only [bucket_setBucket_of_ne same]

end Store

/-- What a key holds after its pair is put. -/
def fill (value : String) : List String → List String
  | [] => [value]
  | held => held.map fun _ => value

namespace Hub

variable {hub : Hub} {key other : String} {index : BucketIndex}

theorem held_put (hub : Hub) (placed : bucketOf? key = some index) (value other : String) :
    (hub.put index key value).hub.store.held other =
      if other = key then fill value (hub.store.held key) else hub.store.held other := by
  have here := hub.store.held_of_placed placed
  cases found : hub.store.node? key with
  | none =>
    have nothing : hub.store.held key = [] := Store.held_eq_nil_iff.mpr found
    rw [put_of_absent placed found, Store.held_setBucket, Bucket.held_push]
    by_cases same : other = key
    · rw [if_pos (same ▸ placed), if_pos same, same, ← here, nothing, if_pos rfl]
      rfl
    · rw [if_neg same, if_neg (Ne.symm same), List.append_nil]
      split
      · next also => rw [Store.held_of_placed _ also]
      · rfl
  | some node =>
    have something : hub.store.held key ≠ [] := fun nothing => by
      rw [Store.held_eq_nil_iff.mp nothing] at found
      cases found
    rw [put_of_present placed found, Store.held_setBucket]
    by_cases same : other = key
    · subst same
      have replaced := Bucket.held_replace_self (hub.store.bucket index) ⟨other, value,
        ⟨node.subscribers.limit, node.subscribers.members.filter hub.boxes.accepts⟩⟩
      rw [if_pos placed, if_pos rfl, replaced, ← here]
      cases held : hub.store.held other with
      | nil => exact absurd held something
      | cons first rest => rfl
    · rw [if_neg same]
      split
      · next also =>
        rw [Bucket.held_replace_of_ne _ (Ne.symm same), Store.held_of_placed _ also]
      · rfl

theorem held_drop (hub : Hub) (key other : String) :
    (hub.drop key).store.held other =
      if other = key then (hub.store.held key).tail else hub.store.held other := by
  cases found : hub.store.locate? key with
  | none =>
    have absent := Store.locate?_eq_none_iff.mp found
    rw [drop_of_absent absent]
    by_cases same : other = key
    · rw [if_pos same, same, Store.held_eq_nil_iff.mpr absent]
      rfl
    · rw [if_neg same]
  | some place =>
    obtain ⟨index, node⟩ := place
    have placed := (Store.locate?_eq_some_iff.mp found).1
    rw [drop_of_located found, Store.held_setBucket]
    by_cases same : other = key
    · subst same
      rw [if_pos placed, if_pos rfl, Bucket.held_erase_self, ← hub.store.held_of_placed placed]
    · rw [if_neg same]
      split
      · next also =>
        rw [Bucket.held_erase_of_ne _ (Ne.symm same), Store.held_of_placed _ also]
      · rfl

/-- What a batch of pairs leaves under a key comes from the good pairs with this key. -/
theorem held_write (hub : Hub) (pairs : List (String × String)) (key : String) :
    (hub.write pairs).hub.store.held key =
      ((goodPairs pairs).filter fun pair => pair.1 = key).foldl (fun held pair => fill pair.2 held)
        (hub.store.held key) := by
  have kept := @relates_write (List String) (fun later held => later.store.held key = held)
    (fun held other value => if other = key then fill value held else held)
    (fun later held index other value placed same => by
      rw [held_put later placed, same]
      by_cases equal : other = key
      · rw [if_pos equal, if_pos equal.symm, equal, same]
      · rw [if_neg equal, if_neg (Ne.symm equal)])
    hub _ rfl pairs
  rw [kept, List.foldl_filter]
  simp only [decide_eq_true_eq]

/-- A batch of deletions takes a value from a key for each time that it names the key. -/
theorem held_delete (hub : Hub) (keys : List String) (key : String) :
    (hub.delete keys).hub.store.held key = (hub.store.held key).drop (keys.count key) := by
  rw [hub_delete]
  induction keys generalizing hub with
  | nil => rfl
  | cons first rest ih =>
    rw [List.foldl_cons, ih, held_drop]
    by_cases same : key = first
    · rw [if_pos same, same, List.count_cons_self, List.drop_tail]
    · rw [if_neg same, List.count_cons_of_ne (Ne.symm same)]

/-- The first key of a batch is missing if it holds nothing. -/
theorem answer_delete_cons (hub : Hub) (key : String) (rest : List String) :
    (hub.delete (key :: rest)).answer =
      if hub.store.held key = [] then key :: ((hub.drop key).delete rest).answer
      else ((hub.drop key).delete rest).answer := by
  rw [delete, drop]
  cases removed : hub.remove? key with
  | none => rw [if_pos (Store.held_eq_nil_iff.mpr (remove?_eq_none_iff.mp removed))]
  | some change =>
    rw [if_neg]
    intro nothing
    rw [remove?_eq_none_iff.mpr (Store.held_eq_nil_iff.mp nothing)] at removed
    cases removed

/-- The keys that a batch of deletions does not find depend on what its own keys hold. -/
theorem answer_delete_congr {first second : Hub} {keys : List String}
    (same : ∀ key ∈ keys, first.store.held key = second.store.held key) :
    (first.delete keys).answer = (second.delete keys).answer := by
  induction keys generalizing first second with
  | nil => rfl
  | cons key rest ih =>
    have here := same key List.mem_cons_self
    have later : ((first.drop key).delete rest).answer = ((second.drop key).delete rest).answer := by
      refine ih fun other member => ?_
      rw [held_drop, held_drop, here]
      split
      · rfl
      · exact same other (List.mem_cons_of_mem _ member)
    rw [answer_delete_cons, answer_delete_cons, here, later]

end Hub

end WatchedStore
