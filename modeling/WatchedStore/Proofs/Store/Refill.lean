import WatchedStore.Proofs.Store.Ledger

/-! # A snapshot written into an empty store

What a run leaves in the store was written by the run and passed the checks then, so it passes them
again. A snapshot stands in the order of the buckets and names no key twice; written in that order
into an empty store it is filed as it stood. Subscribers play no part in it.
-/

namespace WatchedStore

theorem textFaults_of_pairFault? {key value : String} (good : pairFault? key value = none) :
    textFault? key = none ∧ textFault? value = none := by
  obtain ⟨error, fault, -⟩ | ⟨index, -, -, valid⟩ := validatePair_eq key value
  · cases good.symm.trans fault
  · obtain ⟨cleanKey, -, cleanValue⟩ := validatePair_eq_ok_iff.mp valid
    exact ⟨cleanKey, cleanValue⟩

theorem mem_goodPairs_iff {pairs : List (String × String)} {pair : String × String} :
    pair ∈ goodPairs pairs ↔ pair ∈ pairs ∧ pairFault? pair.1 pair.2 = none := by
  rw [goodPairs, List.mem_filter, Option.isNone_iff_eq_none]

namespace Ledger

/-- A ledger has no pair that was not there before or has been put in. -/
theorem mem_put {ledger : Ledger} {key value : String} {entry : String × String}
    (member : entry ∈ ledger.put key value) : entry ∈ ledger ∨ entry = (key, value) := by
  unfold put at member
  split at member
  · obtain ⟨old, present, rfl⟩ := List.mem_map.mp member
    split
    · exact .inr rfl
    · exact .inl present
  · exact (List.mem_append.mp member).imp_right List.mem_singleton.mp

theorem mem_write {ledger : Ledger} {pairs : List (String × String)} {entry : String × String}
    (member : entry ∈ ledger.write pairs) : entry ∈ ledger ∨ entry ∈ goodPairs pairs := by
  unfold write at member
  generalize goodPairs pairs = good at member ⊢
  induction good generalizing ledger with
  | nil => exact .inl member
  | cons pair rest ih =>
    rcases ih member with earlier | later
    · rcases mem_put earlier with earlier | rfl
      · exact .inl earlier
      · exact .inr List.mem_cons_self
    · exact .inr (List.mem_cons_of_mem _ later)

theorem mem_delete {ledger : Ledger} {keys : List String} {entry : String × String}
    (member : entry ∈ ledger.delete keys) : entry ∈ ledger := by
  unfold delete at member
  induction keys generalizing ledger with
  | nil => exact member
  | cons key rest ih => exact List.mem_of_mem_filter (ih member)

/-- What a run adds to a ledger was written by it and is good. -/
theorem mem_after {ledger : Ledger} {calls : List Call} {entry : String × String}
    (member : entry ∈ ledger.after calls) :
    entry ∈ ledger ∨ ∃ pairs, .write pairs ∈ calls ∧ entry ∈ goodPairs pairs := by
  induction calls generalizing ledger with
  | nil => exact .inl member
  | cons call rest ih =>
    rcases ih member with earlier | ⟨pairs, later, good⟩
    · cases call with
      | write pairs =>
        exact (mem_write earlier).imp_right fun good => ⟨pairs, List.mem_cons_self, good⟩
      | delete keys => exact .inl (mem_delete earlier)
      | read | snapshot | size | subscriberCount | subscribe | unsubscribe | unsubscribeAll
      | openMailbox | receive | closeMailbox => exact .inl earlier
    · exact .inr ⟨pairs, List.mem_cons_of_mem _ later, good⟩

/-- A snapshot stands in the order of the buckets already. -/
theorem snapshot_snapshot (ledger : Ledger) :
    Ledger.snapshot ledger.snapshot = ledger.snapshot := by
  unfold snapshot
  exact mergeSort_mergeSort (fun entry : String × String => bucketRank entry.1) ledger

/-- Pairs with new keys are put at the end, one after the other. -/
theorem foldl_put_of_fresh {ledger : Ledger} {pairs : List (String × String)}
    (distinct : ((ledger ++ pairs).map Prod.fst).Nodup) :
    pairs.foldl (fun ledger pair => ledger.put pair.1 pair.2) ledger = ledger ++ pairs := by
  induction pairs generalizing ledger with
  | nil => exact (List.append_nil _).symm
  | cons pair rest ih =>
    have absent : ledger.has pair.1 = false := by
      rw [← Bool.not_eq_true, has_iff]
      rintro ⟨entry, member, same⟩
      rw [List.map_append, List.nodup_append] at distinct
      exact distinct.2.2 _ (List.mem_map_of_mem member) _ (List.mem_map_of_mem List.mem_cons_self)
        same
    have step : ledger.put pair.1 pair.2 = ledger ++ [pair] := by
      rw [put, if_neg (Bool.eq_false_iff.mp absent)]
    rw [List.foldl_cons, step, ih]
    · simp
    · simpa using distinct

end Ledger

namespace Hub

variable (limit : Nat) (calls : List Call)

/-- What a run from the empty store leaves there was written by it and is good. -/
theorem mem_snapshot_after {pair : String × String}
    (member : pair ∈ ((empty limit).after calls).store.snapshot) :
    ∃ pairs, .write pairs ∈ calls ∧ pair ∈ goodPairs pairs := by
  have same : ((empty limit).after calls).store.Represents (Ledger.after [] calls) :=
    represents_after (Store.represents_empty limit) calls
  rw [same.snapshot_eq, Ledger.snapshot, List.mem_mergeSort] at member
  exact (Ledger.mem_after member).resolve_left List.not_mem_nil

/-- The snapshot after a run from the empty store, written into another empty store, is refused in
no pair and is the snapshot there. -/
theorem refill (other : Nat) :
    let pairs := ((empty limit).after calls).store.snapshot
    ((empty other).write pairs).answer = [] ∧
      ((empty other).write pairs).hub.store.snapshot = pairs := by
  intro pairs
  have same : ((empty limit).after calls).store.Represents (Ledger.after [] calls) :=
    represents_after (Store.represents_empty limit) calls
  have good : ∀ pair ∈ pairs, pairFault? pair.1 pair.2 = none := by
    intro pair member
    obtain ⟨written, -, passed⟩ := mem_snapshot_after limit calls member
    exact (mem_goodPairs_iff.mp passed).2
  have distinct : (pairs.map Prod.fst).Nodup := by
    simp only [pairs, Store.snapshot, List.map_map]
    exact same.sound.nodup_keys
  have sorted : Ledger.snapshot pairs = pairs := by
    simp only [pairs, same.snapshot_eq, Ledger.snapshot_snapshot]
  have written : Ledger.write [] pairs = pairs := by
    rw [Ledger.write, goodPairs, List.filter_eq_self.mpr fun pair member => by simp [good pair member]]
    exact Ledger.foldl_put_of_fresh distinct
  refine ⟨?_, ?_⟩
  · change rejectedPairs pairs = []
    rw [rejectedPairs_eq, List.filterMap_eq_nil_iff]
    intro pair member
    rw [good pair member, Option.map_none]
  · have start : (empty other).store.Represents [] := Store.represents_empty other
    have refilled := represents_call start (.write pairs)
    have shown := refilled.snapshot_eq
    rw [Ledger.step, written, sorted] at shown
    exact shown

end Hub

end WatchedStore
