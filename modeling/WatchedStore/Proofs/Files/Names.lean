import WatchedStore.Proofs.Files.Writing

/-! # File names and their extensions

A name joined to a directory is the file name of the path, unless it is one of the names that stand
for a directory. Its extension is what stands behind its last dot, if anything stands in front of it.
Another extension goes behind the same stem in the same directory, except for the stem that is a
single dot: without the old extension such a path names the directory above, and stays that.
-/

namespace WatchedStore

section Cuts

variable {separator : UInt8} {bytes before after : Bytes}

theorem splitBytesLast?_eq_none_iff :
    splitBytesLast? separator bytes = none ↔ separator ∉ bytes := by
  induction bytes with
  | nil => simp [splitBytesLast?]
  | cons byte rest ih =>
    rw [splitBytesLast?, List.mem_cons, not_or, ← ih]
    cases splitBytesLast? separator rest with
    | some parts => simp
    | none => simp [eq_comm]

theorem splitBytesLast?_of_not_mem (absent : separator ∉ after) (before : Bytes) :
    splitBytesLast? separator (before ++ separator :: after) = some (before, after) := by
  induction before with
  | nil => rw [List.nil_append, splitBytesLast?, splitBytesLast?_eq_none_iff.mpr absent, if_pos rfl]
  | cons byte rest ih => rw [List.cons_append, splitBytesLast?, ih]

theorem eq_of_splitBytesLast? (cut : splitBytesLast? separator bytes = some (before, after)) :
    separator ∉ after ∧ bytes = before ++ separator :: after := by
  induction bytes generalizing before with
  | nil => cases cut
  | cons byte rest ih =>
    rw [splitBytesLast?] at cut
    cases later : splitBytesLast? separator rest with
    | some parts =>
      rw [later] at cut
      obtain ⟨rfl, rfl⟩ := Prod.mk.inj (Option.some.inj cut)
      obtain ⟨absent, rfl⟩ := ih later
      exact ⟨absent, rfl⟩
    | none =>
      rw [later] at cut
      obtain ⟨rfl, same⟩ := Option.ite_none_right_eq_some.mp cut
      obtain ⟨rfl, rfl⟩ := Prod.mk.inj (Option.some.inj same)
      exact ⟨splitBytesLast?_eq_none_iff.mp later, rfl⟩

end Cuts

namespace Path

variable {name front stem extension : Bytes}

/-- Nothing, or what leads into a directory with the slash at its end. -/
def IsFront (front : Bytes) : Prop := front = [] ∨ front.getLast? = some slash

/-- In front of the names that are joined to a directory stands the same. -/
theorem exists_front (directory : Path) :
    ∃ front, IsFront front ∧ ∀ name, slash ∉ name → directory.join ⟨name⟩ = ⟨front ++ name⟩ := by
  by_cases plain : directory.bytes = [] ∨ directory.endsInSlash = true
  · exact ⟨directory.bytes, plain.imp_right of_decide_eq_true, fun name single =>
      congrArg Path.mk ((bytes_join single directory).trans (if_pos plain))⟩
  · refine ⟨directory.bytes ++ [slash], .inr List.getLast?_concat, fun name single => ?_⟩
    rw [List.append_assoc, List.singleton_append]
    exact congrArg Path.mk ((bytes_join single directory).trans (if_neg plain))

/-- A name joined to a directory is its last segment, also if it is the double dot. -/
theorem segments_join (single : slash ∉ name) (nonempty : name ≠ []) (notHere : name ≠ [dot])
    (directory : Path) : (directory.join ⟨name⟩).segments = directory.segments ++ [name] := by
  have last : [name].filter (fun segment => decide (segment ≠ [dot])) = [name] := by simp [notHere]
  rw [segments, steps_join single nonempty, List.filter_append, last, segments]

/-- Nothing at the end of a name is idle. -/
theorem dropIdle_reverse_append (single : slash ∉ name) (nonempty : name ≠ []) (notHere : name ≠ [dot])
    (rest : Bytes) : dropIdle (name.reverse ++ rest) = name.reverse ++ rest := by
  have single : slash ∉ name.reverse := fun member => single (List.mem_reverse.mp member)
  cases shape : name.reverse with
  | nil => exact absurd (List.reverse_eq_nil_iff.mp shape) nonempty
  | cons last others =>
    rw [shape] at single
    obtain ⟨apart, inside⟩ := not_or.mp (List.mem_cons.not.mp single)
    rw [List.cons_append, dropIdle, if_neg (Ne.symm apart)]
    refine if_neg ?_
    rintro ⟨rfl, idle⟩
    cases others with
    | nil =>
      have whole := congrArg List.reverse shape
      rw [List.reverse_reverse] at whole
      exact notHere whole
    | cons next others =>
      rcases idle with empty | leading
      · cases empty
      · obtain rfl : next = slash := Option.some.inj leading
        exact inside List.mem_cons_self

/-- The last name of a path is its file name, unless it is the double dot. -/
theorem splitName?_append (isFront : IsFront front) (single : slash ∉ name) (nonempty : name ≠ [])
    (notHere : name ≠ [dot]) :
    splitName? ⟨front ++ name⟩ = if name = [dot, dot] then none else some (front, name) := by
  have solid : ∀ byte ∈ name.reverse, decide (byte ≠ slash) = true := fun byte member =>
    decide_eq_true fun same => single (same ▸ List.mem_reverse.mp member)
  have cut : front.reverse.takeWhile (· ≠ slash) = [] ∧
      front.reverse.dropWhile (· ≠ slash) = front.reverse := by
    rcases isFront with rfl | ending
    · exact ⟨rfl, rfl⟩
    · rw [← List.head?_reverse] at ending
      obtain ⟨others, shape⟩ := List.head?_eq_some_iff.mp ending
      rw [shape]
      exact ⟨List.takeWhile_cons_of_neg (by simp), List.dropWhile_cons_of_neg (by simp)⟩
  unfold splitName?
  dsimp only
  rw [List.reverse_append, dropIdle_reverse_append single nonempty notHere,
    List.takeWhile_append_of_pos solid, List.dropWhile_append_of_pos solid, cut.1, cut.2,
    List.append_nil, List.reverse_reverse, List.reverse_reverse]
  simp only [nonempty, false_or]

/-- The part of a name in front of its last dot is its stem, and what is behind it its extension. -/
theorem splitExtension_append (nonempty : stem ≠ []) (clear : dot ∉ extension) :
    splitExtension (stem ++ dot :: extension) = (stem, some extension) := by
  unfold splitExtension
  rw [splitBytesLast?_of_not_mem clear]
  cases stem with
  | nil => exact absurd rfl nonempty
  | cons byte rest => rfl

theorem splitExtension_eq_some (cut : splitExtension name = (stem, some extension)) :
    stem ≠ [] ∧ dot ∉ extension ∧ name = stem ++ dot :: extension := by
  unfold splitExtension at cut
  split at cut
  · cases cut
  · cases cut
  · next before after nonempty found =>
    cases cut
    obtain ⟨clear, rfl⟩ := eq_of_splitBytesLast? found
    exact ⟨fun empty => nonempty empty, clear, rfl⟩

/-- A stem with an extension is a single name. -/
theorem isFileName_append (single : slash ∉ stem) (nonempty : stem ≠ [])
    (extended : extension ≠ []) (clear : slash ∉ extension) :
    IsFileName (stem ++ dot :: extension) := by
  have size : 3 ≤ (stem ++ dot :: extension).length := by
    have front := List.length_pos_iff.mpr nonempty
    have back := List.length_pos_iff.mpr extended
    rw [List.length_append, List.length_cons]
    omega
  have long : ∀ name : Bytes, name.length < 3 → stem ++ dot :: extension ≠ name := by
    rintro name short rfl
    exact absurd size (Nat.not_le.mpr short)
  refine ⟨fun member => ?_, long [] (by decide), long [dot] (by decide), long _ (by decide)⟩
  rcases List.mem_append.mp member with inside | inside
  · exact single inside
  · rcases List.mem_cons.mp inside with same | inside
    · exact absurd same (by decide)
    · exact clear inside

section Extensions

variable (isFront : IsFront front)

include isFront

theorem splitName?_of_isFileName (proper : IsFileName name) :
    splitName? ⟨front ++ name⟩ = some (front, name) := by
  rw [splitName?_append isFront proper.single proper.nonempty proper.notHere,
    if_neg proper.notAbove]

variable (proper : IsFileName (stem ++ dot :: extension)) (nonempty : stem ≠ [])
  (clear : dot ∉ extension)

include proper nonempty clear

theorem extension?_append :
    extension? ⟨front ++ (stem ++ dot :: extension)⟩ = some extension := by
  rw [extension?, fileName?, splitName?_of_isFileName isFront proper, Option.map_some,
    Option.bind_some, splitExtension_append nonempty clear]

theorem stem?_append : stem? ⟨front ++ (stem ++ dot :: extension)⟩ = some stem := by
  rw [stem?, fileName?, splitName?_of_isFileName isFront proper, Option.map_some,
    Option.map_some, splitExtension_append nonempty clear]

/-- The other extension goes behind the stem, unless the stem is a dot. -/
theorem withExtension_append (other : Bytes) :
    withExtension ⟨front ++ (stem ++ dot :: extension)⟩ other =
      ⟨front ++ if stem = [dot] then [dot, dot] else stem ++ dot :: other⟩ := by
  have single : slash ∉ stem ++ [dot] := fun member => proper.single <| by
    rcases List.mem_append.mp member with inside | last
    · exact List.mem_append_left _ inside
    · exact List.mem_append_right _ (List.mem_singleton.mp last ▸ List.mem_cons_self)
  have cut : (front ++ (stem ++ dot :: extension)).take
      ((front ++ (stem ++ dot :: extension)).length - extension.length) =
        front ++ (stem ++ [dot]) := by
    have whole : front ++ (stem ++ dot :: extension) = front ++ (stem ++ [dot]) ++ extension := by
      simp only [List.append_assoc, List.singleton_append]
    rw [whole, List.length_append, Nat.add_sub_cancel, List.take_left]
  have bare := splitName?_append isFront single (List.append_ne_nil_of_left_ne_nil nonempty [dot])
    fun alone => nonempty (List.append_left_eq_self.mp alone)
  rw [withExtension, extension?_append isFront proper nonempty clear]
  dsimp only
  rw [cut, setExtension, bare]
  by_cases above : stem = [dot]
  · subst above
    rfl
  · have apart : stem ++ [dot] ≠ [dot, dot] := fun same => above (List.append_cancel_right same)
    rw [if_neg apart, if_neg above]
    dsimp only
    rw [splitExtension_append nonempty List.not_mem_nil, List.append_assoc]

end Extensions

end Path

end WatchedStore
