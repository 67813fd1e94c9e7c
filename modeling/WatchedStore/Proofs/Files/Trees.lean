import Mathlib.Data.List.Nodup
import WatchedStore.Proofs.Files.Writing

/-! # Trees as the file system has them

In a proper tree every place stands once, and the names that lead to it are names of files and
directories. The empty tree is proper, and writing files and creating directories keep it so,
whatever paths they are asked for. What stands at a place and what a listing of its directory shows
are then the same.
-/

namespace WatchedStore

instance : DecidablePred IsFileName := fun name =>
  decidable_of_iff (slash ∉ name ∧ name ≠ [] ∧ name ≠ [dot] ∧ name ≠ [dot, dot])
    ⟨fun ⟨single, nonempty, notHere, notAbove⟩ => ⟨single, nonempty, notHere, notAbove⟩,
      fun proper => ⟨proper.single, proper.nonempty, proper.notHere, proper.notAbove⟩⟩

theorem not_mem_of_mem_splitBytes {separator : UInt8} {bytes piece : Bytes}
    (member : piece ∈ splitBytes separator bytes) : separator ∉ piece := by
  induction bytes generalizing piece with
  | nil =>
    rw [List.mem_singleton.mp member]
    exact List.not_mem_nil
  | cons byte rest ih =>
    rw [splitBytes] at member
    split at member
    · rcases List.mem_cons.mp member with rfl | member
      · exact List.not_mem_nil
      · exact ih member
    · next apart =>
      cases shape : splitBytes separator rest with
      | nil => exact absurd shape (splitBytes_ne_nil separator rest)
      | cons first others =>
        rw [shape] at member
        rcases List.mem_cons.mp member with rfl | member
        · refine List.not_mem_cons_of_ne_of_not_mem (Ne.symm apart) (ih ?_)
          rw [shape]
          exact List.mem_cons_self
        · refine ih ?_
          rw [shape]
          exact List.mem_cons_of_mem _ member

namespace FileTree

/-- Every place stands once and is reached by names. -/
structure IsProper (tree : FileTree) : Prop where
  once : (tree.entries.map Prod.fst).Nodup
  named : ∀ place ∈ tree.entries.map Prod.fst, ∀ name ∈ place, IsFileName name

instance : DecidablePred IsProper := fun tree =>
  decidable_of_iff ((tree.entries.map Prod.fst).Nodup ∧
      ∀ place ∈ tree.entries.map Prod.fst, ∀ name ∈ place, IsFileName name)
    ⟨fun ⟨once, named⟩ => ⟨once, named⟩, fun proper => ⟨proper.once, proper.named⟩⟩

variable {tree : FileTree} {path : Path} {place here : Place} {steps : List Bytes}

theorem isProper_empty : empty.IsProper := ⟨List.nodup_nil, fun _ member => nomatch member⟩

theorem IsProper.setEntry (proper : tree.IsProper) (names : ∀ name ∈ place, IsFileName name)
    (entry : Entry) : (tree.setEntry place entry).IsProper where
  once := by
    refine List.nodup_cons.mpr ⟨fun member => ?_, proper.once.sublist (List.filter_sublist.map _)⟩
    obtain ⟨⟨other, old⟩, kept, rfl⟩ := List.mem_map.mp member
    exact of_decide_eq_true (List.mem_filter.mp kept).2 rfl
  named := by
    intro other member
    rcases List.mem_cons.mp member with rfl | member
    · exact names
    · exact proper.named other ((List.filter_sublist.map _).subset member)

/-- The steps of a path lead to a place that is reached by names. -/
theorem isFileName_of_follow (names : ∀ name ∈ here, IsFileName name)
    (single : ∀ name ∈ steps, slash ∉ name ∧ name ≠ [])
    (reached : tree.follow here steps = .ok place) : ∀ name ∈ place, IsFileName name := by
  induction steps generalizing here with
  | nil =>
    cases reached
    exact names
  | cons name rest ih =>
    obtain ⟨first, later⟩ := List.forall_mem_cons.mp single
    rw [follow] at reached
    split at reached
    · cases reached
    · cases reached
    · split at reached
      · cases reached
      · split at reached
        · exact ih names later reached
        · split at reached
          · exact ih (fun other member => names other (List.dropLast_subset _ member)) later reached
          · next notHere notAbove =>
            refine ih (fun other member => ?_) later reached
            rcases List.mem_append.mp member with member | member
            · exact names other member
            · rw [List.mem_singleton.mp member]
              exact ⟨first.1, first.2, notHere, notAbove⟩

theorem single_of_mem_steps {name : Bytes} (member : name ∈ path.steps) : slash ∉ name ∧ name ≠ [] := by
  obtain ⟨piece, nonempty⟩ := List.mem_filter.mp member
  exact ⟨not_mem_of_mem_splitBytes piece, of_decide_eq_true nonempty⟩

theorem isFileName_of_follow_steps (reached : tree.follow [] path.steps = .ok place) :
    ∀ name ∈ place, IsFileName name :=
  isFileName_of_follow (fun _ member => absurd member List.not_mem_nil)
    (fun _ member => single_of_mem_steps member) reached

theorem IsProper.write (proper : tree.IsProper) {content : Bytes} {written : FileTree}
    (success : tree.write path content = .ok written) : written.IsProper := by
  unfold FileTree.write at success
  cases resolved : tree.resolveFile path with
  | error failure =>
    rw [resolved] at success
    cases success
  | ok place =>
    rw [resolved] at success
    obtain ⟨-, -, reached, -⟩ := resolveFile_eq_ok_iff.mp resolved
    exact Except.ok.inj success ▸ proper.setEntry (isFileName_of_follow_steps reached) _

theorem IsProper.ensureDirectory (proper : tree.IsProper)
    (single : ∀ name ∈ steps, slash ∉ name ∧ name ≠ []) {made : FileTree}
    (success : tree.ensureDirectory steps = .ok made) : made.IsProper := by
  unfold FileTree.ensureDirectory at success
  split at success
  · cases success
  · next reached =>
    split at success
    · cases success
      exact proper
    · cases success
    · cases success
      exact proper.setEntry
        (isFileName_of_follow (fun _ member => absurd member List.not_mem_nil) single reached) _

theorem IsProper.createNested (proper : tree.IsProper) {nested : List (List Bytes)}
    (single : ∀ steps ∈ nested, ∀ name ∈ steps, slash ∉ name ∧ name ≠ []) {made : FileTree}
    (success : tree.createNested nested = .ok made) : made.IsProper := by
  induction nested generalizing made with
  | nil =>
    cases success
    exact proper
  | cons steps outer ih =>
    obtain ⟨first, later⟩ := List.forall_mem_cons.mp single
    rw [FileTree.createNested] at success
    split at success
    · next direct =>
      cases success
      exact proper.ensureDirectory first direct
    · split at success
      · split at success
        · cases success
        · next around => exact (ih later around).ensureDirectory first success
      · cases success

theorem IsProper.createDirectories (proper : tree.IsProper) {made : FileTree}
    (success : tree.createDirectories path = .ok made) : made.IsProper := by
  unfold FileTree.createDirectories at success
  split at success
  · cases success
    exact proper
  · split at success
    · cases success
    · refine proper.createNested (fun steps member name inside => ?_) success
      have within : name ∈ path.steps := by
        rcases List.mem_cons.mp member with rfl | member
        · exact inside
        · obtain ⟨count, -, rfl⟩ := List.mem_map.mp member
          exact List.mem_of_mem_filter (List.mem_of_mem_take inside)
      exact single_of_mem_steps within

section Listing

variable {entries : List (Place × Entry)} {entry : Entry} {name : Bytes}

theorem lookup_eq_some_iff_mem (once : (entries.map Prod.fst).Nodup) :
    entries.lookup place = some entry ↔ (place, entry) ∈ entries := by
  induction entries with
  | nil => simp
  | cons first rest ih =>
    obtain ⟨other, found⟩ := first
    obtain ⟨fresh, once⟩ := List.nodup_cons.mp once
    rw [List.lookup_cons, beq_eq_decide, List.mem_cons, Prod.mk.injEq]
    by_cases same : place = other
    · subst same
      have absent : (place, entry) ∉ rest := fun member =>
        fresh (List.mem_map.mpr ⟨_, member, rfl⟩)
      simp [absent, eq_comm]
    · simp [same, ih once]

theorem entry?_append (proper : tree.IsProper) :
    tree.entry? (place ++ [name]) = some entry ↔ (place ++ [name], entry) ∈ tree.entries := by
  unfold entry?
  rw [if_neg (List.append_ne_nil_of_right_ne_nil _ (List.cons_ne_nil _ _))]
  exact lookup_eq_some_iff_mem proper.once

theorem isFileName_of_entry? (proper : tree.IsProper)
    (here : tree.entry? (place ++ [name]) = some entry) : IsFileName name := by
  have placed : place ++ [name] ∈ tree.entries.map Prod.fst :=
    List.mem_map.mpr ⟨_, (entry?_append proper).mp here, rfl⟩
  exact proper.named _ placed name (List.mem_append_right _ (List.mem_singleton_self name))

/-- The name of a place in a directory. -/
private def nameIn? (place other : Place) : Option Bytes :=
  if other.dropLast = place then other.getLast? else none

private theorem nameIn?_eq_some_iff {other : Place} :
    nameIn? place other = some name ↔ other = place ++ [name] := by
  unfold nameIn?
  rw [Option.ite_none_right_eq_some]
  constructor
  · rintro ⟨rfl, last⟩
    exact (List.dropLast_append_getLast? _ last).symm
  · rintro rfl
    exact ⟨List.dropLast_concat, List.getLast?_concat⟩

/-- The listing of a directory of a proper tree shows each name in it once, with what stands there. -/
theorem exists_list (proper : tree.IsProper) (resolved : tree.resolve path = .ok place)
    (present : tree.entry? place = some .directory) :
    ∃ listed, tree.list path = .ok listed ∧ (listed.map Prod.fst).Nodup ∧
      ∀ name entry, (name, entry) ∈ listed ↔ tree.entry? (place ++ [name]) = some entry := by
  let listed := tree.entries.filterMap fun item =>
    (nameIn? place item.1).map fun name => (name, item.2)
  have success : tree.list path = .ok listed := by
    unfold FileTree.list
    rw [resolved]
    dsimp only
    rw [present]
    refine congrArg Except.ok (List.filterMap_congr fun item _ => ?_)
    obtain ⟨other, entry⟩ := item
    unfold nameIn?
    by_cases inside : other.dropLast = place
    · simp only [if_pos inside]
      cases other.getLast? <;> rfl
    · simp only [if_neg inside]
      cases other.getLast? <;> rfl
  refine ⟨listed, success, ?_, fun name entry => ?_⟩
  · have names : listed.map Prod.fst = (tree.entries.map Prod.fst).filterMap (nameIn? place) := by
      rw [List.map_filterMap, List.filterMap_map]
      refine List.filterMap_congr fun item _ => ?_
      rw [Option.map_map]
      exact Option.map_id'
    rw [names]
    refine proper.once.filterMap fun one other name named same => ?_
    rw [Option.mem_def, nameIn?_eq_some_iff] at named same
    rw [named, same]
  · rw [entry?_append proper, List.mem_filterMap]
    constructor
    · rintro ⟨⟨other, found⟩, member, named⟩
      obtain ⟨name', here, same⟩ := Option.map_eq_some_iff.mp named
      cases same
      obtain rfl : other = place ++ [name] := nameIn?_eq_some_iff.mp here
      exact member
    · intro member
      refine ⟨_, member, ?_⟩
      dsimp only
      rw [nameIn?_eq_some_iff.mpr rfl, Option.map_some]

end Listing

end FileTree

end WatchedStore
