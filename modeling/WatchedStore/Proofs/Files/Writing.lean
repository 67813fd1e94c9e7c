import Mathlib.Data.List.Basic
import WatchedStore.FileTree

/-! # Writing files

Writing a file puts it at one place and leaves every way through the directories as it was, since no
directory is replaced. A path that could be written therefore stays one that can be, and leads to
the same place, and a file that stands elsewhere is read as before. Two names joined to one directory
lead to two places. Creating directories is not the subject here.
-/

namespace WatchedStore

theorem splitBytes_ne_nil (separator : UInt8) (bytes : Bytes) :
    splitBytes separator bytes ≠ [] := by
  cases bytes with
  | nil => exact List.cons_ne_nil _ _
  | cons byte rest =>
    unfold splitBytes
    split
    · exact List.cons_ne_nil _ _
    · split <;> exact List.cons_ne_nil _ _

theorem splitBytes_append (separator : UInt8) (before after : Bytes) :
    splitBytes separator (before ++ separator :: after) =
      splitBytes separator before ++ splitBytes separator after := by
  induction before with
  | nil => simp [splitBytes]
  | cons byte rest ih =>
    rw [List.cons_append, splitBytes, splitBytes, ih]
    split
    · rfl
    · cases pieces : splitBytes separator rest with
      | nil => exact absurd pieces (splitBytes_ne_nil separator rest)
      | cons piece others => rfl

theorem splitBytes_of_not_mem {separator : UInt8} {bytes : Bytes} (absent : separator ∉ bytes) :
    splitBytes separator bytes = [bytes] := by
  induction bytes with
  | nil => rfl
  | cons byte rest ih =>
    have apart : byte ≠ separator := fun same => absent (same ▸ List.mem_cons_self)
    rw [splitBytes, if_neg apart, ih fun later => absent (List.mem_cons_of_mem _ later)]

/-- A single name: no step into a directory and not one of the names that stand for a directory. -/
structure IsFileName (name : Bytes) : Prop where
  single : slash ∉ name
  nonempty : name ≠ []
  notHere : name ≠ [dot]
  notAbove : name ≠ [dot, dot]

namespace Path

variable {directory : Path} {name : Bytes}

theorem bytes_join (single : slash ∉ name) (directory : Path) :
    (directory.join ⟨name⟩).bytes =
      if directory.bytes = [] ∨ directory.endsInSlash then directory.bytes ++ name
      else directory.bytes ++ slash :: name := by
  have relative : isAbsolute ⟨name⟩ = false := by
    refine decide_eq_false fun leading => single ?_
    exact List.mem_of_mem_head? leading
  unfold join
  rw [relative]
  simp only [Bool.false_eq_true, ↓reduceIte]
  split <;> rfl

/-- Joining a name adds one step. -/
theorem steps_join (single : slash ∉ name) (nonempty : name ≠ []) (directory : Path) :
    (directory.join ⟨name⟩).steps = directory.steps ++ [name] := by
  have last : [name].filter (fun segment => decide (segment ≠ [])) = [name] := by
    simp [nonempty]
  unfold steps
  rw [bytes_join single]
  split
  · next plain =>
    rcases plain with empty | ending
    · rw [empty, List.nil_append, splitBytes_of_not_mem single, last]
      rfl
    · obtain ⟨before, whole⟩ := List.getLast?_eq_some_iff.mp (of_decide_eq_true ending)
      rw [whole, List.append_assoc, List.singleton_append, splitBytes_append,
        splitBytes_append, List.filter_append, splitBytes_of_not_mem single, last,
        List.filter_append]
      simp [splitBytes]
  · rw [splitBytes_append, List.filter_append, splitBytes_of_not_mem single, last]

theorem join_injective {other : Bytes} (proper : IsFileName name) (otherProper : IsFileName other)
    (same : directory.join ⟨name⟩ = directory.join ⟨other⟩) : name = other := by
  have steps := congrArg steps same
  rw [steps_join proper.single proper.nonempty,
    steps_join otherProper.single otherProper.nonempty] at steps
  exact List.singleton_injective (List.append_cancel_left steps)

end Path

namespace FileTree

theorem lookup_filter_ne (entries : List (Place × Entry)) {place other : Place}
    (apart : other ≠ place) :
    (entries.filter fun (here, _) => here ≠ place).lookup other = entries.lookup other := by
  induction entries with
  | nil => rfl
  | cons entry rest ih =>
    obtain ⟨here, found⟩ := entry
    by_cases same : here = place
    · subst same
      simpa [List.lookup_cons, beq_eq_decide, apart] using ih
    · simp only [List.filter_cons, same, ne_eq, not_false_eq_true, ↓reduceIte, decide_true]
      rw [List.lookup_cons, List.lookup_cons, ih]

theorem entry?_setEntry (tree : FileTree) (place : Place) (entry : Entry) (other : Place) :
    FileTree.entry? (tree.setEntry place entry) other =
      if other = [] then some .directory
      else if other = place then some entry
      else tree.entry? other := by
  unfold entry? setEntry
  by_cases root : other = []
  · rw [if_pos root, if_pos root]
  · rw [if_neg root, if_neg root]
    by_cases same : other = place
    · subst same
      simp
    · rw [if_neg same, if_neg root, List.lookup_cons, beq_eq_decide, decide_eq_false same]
      exact lookup_filter_ne _ same

variable {tree : FileTree} {path : Path} {place : Place} {content : Bytes}

theorem follow_append (tree : FileTree) (here : Place) (first second : List Bytes) :
    tree.follow here (first ++ second) =
      (tree.follow here first).bind fun there => tree.follow there second := by
  induction first generalizing here with
  | nil => rfl
  | cons name rest ih =>
    rw [List.cons_append, follow, follow]
    cases tree.entry? here with
    | none => rfl
    | some entry =>
      cases entry with
      | file content => rfl
      | directory =>
        dsimp only
        split
        · rfl
        · split
          · exact ih here
          · split
            · exact ih _
            · exact ih _

/-- A file that replaces no directory is in nobody's way. -/
theorem follow_setEntry (vacant : tree.entry? place ≠ some .directory) {here there : Place}
    {steps : List Bytes} (reached : tree.follow here steps = .ok there) :
    (tree.setEntry place (.file content)).follow here steps = .ok there := by
  induction steps generalizing here with
  | nil => exact reached
  | cons name rest ih =>
    rw [follow] at reached ⊢
    cases found : tree.entry? here with
    | none => simp [found] at reached
    | some entry =>
      cases entry with
      | file old => simp [found] at reached
      | directory =>
        have apart : here ≠ place := fun same => vacant (same ▸ found)
        have still : FileTree.entry? (tree.setEntry place (.file content)) here = some .directory := by
          rw [entry?_setEntry, if_neg apart, found, ite_self]
        rw [found] at reached
        rw [still]
        dsimp only at reached ⊢
        split
        · next long => simp [long] at reached
        · next fits =>
          rw [if_neg fits] at reached
          split
          · next stays => exact ih (by simpa [stays] using reached)
          · next moves =>
            rw [if_neg moves] at reached
            split
            · next above => exact ih (by simpa [above] using reached)
            · next below => exact ih (by simpa [below] using reached)

/-- What it takes to write a file. -/
theorem resolveFile_eq_ok_iff :
    tree.resolveFile path = .ok place ↔
      refusal? path = none ∧ path.endsInSlash = false ∧ tree.follow [] path.steps = .ok place ∧
        tree.entry? place ≠ some .directory := by
  unfold resolveFile
  cases refusal? path with
  | some failure => simp
  | none =>
    cases path.endsInSlash with
    | true =>
      simp only [↓reduceIte, Bool.true_eq_false, false_and, and_false, iff_false]
      split <;> simp
    | false =>
      simp only [Bool.false_eq_true, ↓reduceIte, true_and]
      cases tree.follow [] path.steps with
      | error failure => simp
      | ok there =>
        dsimp only
        split
        · next occupied => simpa using fun same => same ▸ occupied
        · next vacant => simpa using fun same => same ▸ vacant

theorem resolveFile_setEntry (vacant : tree.entry? place ≠ some .directory) {other : Place}
    (resolved : tree.resolveFile path = .ok other) :
    (tree.setEntry place (.file content)).resolveFile path = .ok other := by
  obtain ⟨welcome, plain, reached, free⟩ := resolveFile_eq_ok_iff.mp resolved
  have nonRoot : other ≠ [] := fun root => free (by rw [root, entry?, if_pos rfl])
  refine resolveFile_eq_ok_iff.mpr ⟨welcome, plain, follow_setEntry vacant reached, ?_⟩
  rw [entry?_setEntry, if_neg nonRoot]
  split
  · simp
  · exact free

/-- A path that can be written is read at the place where it is written. -/
theorem read_of_resolveFile (resolved : tree.resolveFile path = .ok place) :
    tree.read path =
      match tree.entry? place with
      | some (.file content) => .ok content
      | _ => .error noEntry := by
  obtain ⟨welcome, plain, reached, free⟩ := resolveFile_eq_ok_iff.mp resolved
  unfold read resolve
  rw [welcome]
  dsimp only
  rw [reached]
  dsimp only
  cases found : tree.entry? place with
  | none => rfl
  | some entry =>
    cases entry with
    | directory => exact absurd found free
    | file content => simp [plain]

/-- What was written is read again. -/
theorem read_setEntry (resolved : tree.resolveFile path = .ok place) :
    (tree.setEntry place (.file content)).read path = .ok content := by
  obtain ⟨-, -, -, free⟩ := resolveFile_eq_ok_iff.mp resolved
  have nonRoot : place ≠ [] := fun root => free (by rw [root, entry?, if_pos rfl])
  rw [read_of_resolveFile (resolveFile_setEntry free resolved), entry?_setEntry, if_neg nonRoot,
    if_pos rfl]

/-- A file at another place is read as before. -/
theorem read_setEntry_of_ne (vacant : tree.entry? place ≠ some .directory) {other : Place}
    (resolved : tree.resolveFile path = .ok other) (apart : other ≠ place) :
    (tree.setEntry place (.file content)).read path = tree.read path := by
  obtain ⟨-, -, -, free⟩ := resolveFile_eq_ok_iff.mp resolved
  have nonRoot : other ≠ [] := fun root => free (by rw [root, entry?, if_pos rfl])
  rw [read_of_resolveFile (resolveFile_setEntry vacant resolved), read_of_resolveFile resolved,
    entry?_setEntry, if_neg nonRoot, if_neg apart]

/-- A name joined to a directory leads to the place of that name in it. -/
theorem resolveFile_join {directory : Path} {name : Bytes} (proper : IsFileName name)
    (resolved : tree.resolveFile (directory.join ⟨name⟩) = .ok place) :
    ∃ parent, tree.follow [] directory.steps = .ok parent ∧ place = parent ++ [name] := by
  obtain ⟨-, -, reached, -⟩ := resolveFile_eq_ok_iff.mp resolved
  rw [Path.steps_join proper.single proper.nonempty, follow_append] at reached
  cases inside : tree.follow [] directory.steps with
  | error failure => simp [inside, Except.bind] at reached
  | ok parent =>
    refine ⟨parent, rfl, ?_⟩
    simp only [inside, Except.bind, follow, if_neg proper.notHere, if_neg proper.notAbove]
      at reached
    split at reached
    · cases reached
    · cases reached
    · split at reached
      · cases reached
      · exact (Except.ok.inj reached).symm

/-- Two names in one directory lead to two places. -/
theorem place_ne_of_name_ne {directory : Path} {name otherName : Bytes} {other : Place}
    (proper : IsFileName name) (otherProper : IsFileName otherName) (apart : name ≠ otherName)
    (resolved : tree.resolveFile (directory.join ⟨name⟩) = .ok place)
    (otherResolved : tree.resolveFile (directory.join ⟨otherName⟩) = .ok other) :
    place ≠ other := by
  obtain ⟨parent, inside, rfl⟩ := resolveFile_join proper resolved
  obtain ⟨otherParent, otherInside, rfl⟩ := resolveFile_join otherProper otherResolved
  obtain rfl : parent = otherParent := Except.ok.inj (inside.symm.trans otherInside)
  exact fun same => apart (List.singleton_injective (List.append_cancel_left same))

end FileTree

end WatchedStore
