import Mathlib.Data.List.DropRight
import WatchedStore.Text.Blank

/-! # Trimmed texts

A text is its trimmed form with blanks around it. The trimmed form is determined by this: it is the
part between two runs of blanks whose own ends are not blank. What trimming does to a text is
therefore read off any such decomposition, without going through the two scans.
-/

namespace WatchedStore.Text

/-- Nothing but blanks. -/
def AllBlank (text : List Char) : Prop := ∀ c ∈ text, isBlank c = true

/-- No blank at either end. -/
structure IsTight (text : List Char) : Prop where
  first : ∀ c, text.head? = some c → isBlank c = false
  last : ∀ c, text.getLast? = some c → isBlank c = false

variable {text before after core : List Char}

theorem AllBlank.append (first : AllBlank before) (second : AllBlank after) :
    AllBlank (before ++ after) := by
  intro c member
  rcases List.mem_append.mp member with member | member
  · exact first c member
  · exact second c member

theorem allBlank_nil : AllBlank [] := fun _ member => absurd member List.not_mem_nil

theorem allBlank_singleton {c : Char} (blank : isBlank c = true) : AllBlank [c] :=
  List.forall_mem_singleton.mpr blank

theorem isTight_of_solid (solid : ∀ c ∈ text, isBlank c = false) : IsTight text where
  first := fun c head => solid c (List.mem_of_mem_head? head)
  last := fun c last => solid c (List.mem_of_getLast? last)

/-- A text with solid ends, whatever stands between them. -/
theorem IsTight.append (front : IsTight before) (back : IsTight after) (nonempty : before ≠ [])
    (backNonempty : after ≠ []) (middle : List Char) : IsTight (before ++ middle ++ after) where
  first := by
    intro c head
    rw [List.append_assoc, List.head?_append_of_ne_nil _ nonempty] at head
    exact front.first c head
  last := by
    intro c last
    rw [List.getLast?_append_of_ne_nil _ backNonempty] at last
    exact back.last c last

theorem trimStart_append (blank : AllBlank before) (text : List Char) :
    trimStart (before ++ text) = trimStart text :=
  List.dropWhile_append_of_pos blank

theorem trimStart_of_first (solid : ∀ c, text.head? = some c → isBlank c = false) :
    trimStart text = text := by
  cases text with
  | nil => rfl
  | cons c rest => exact List.dropWhile_cons_of_neg (by simp [solid c rfl])

/-- The part between two runs of blanks is what trimming leaves. -/
theorem trim_surrounded (blankBefore : AllBlank before) (blankAfter : AllBlank after)
    (tight : IsTight core) : trim (before ++ core ++ after) = core := by
  rw [trim, List.append_assoc, trimStart_append blankBefore]
  by_cases empty : core = []
  · subst empty
    rw [List.nil_append, trimStart, List.dropWhile_eq_nil_iff.mpr blankAfter]
    rfl
  · rw [trimStart_of_first]
    · rw [trimEnd, List.reverse_append,
        List.dropWhile_append_of_pos fun c member => blankAfter c (List.mem_reverse.mp member)]
      have kept := @trimStart_of_first core.reverse
        fun c head => tight.last c (List.head?_reverse ▸ head)
      rw [← trimStart, kept, List.reverse_reverse]
    · intro c head
      rw [List.head?_append_of_ne_nil _ empty] at head
      exact tight.first c head

theorem allBlank_takeWhile (text : List Char) : AllBlank (text.takeWhile isBlank) :=
  List.all_eq_true.mp List.all_takeWhile

/-- A text is its trimmed form with blanks around it. -/
theorem exists_trim (text : List Char) :
    ∃ before after, AllBlank before ∧ AllBlank after ∧ text = before ++ trim text ++ after := by
  refine ⟨text.takeWhile isBlank, ((trimStart text).reverse.takeWhile isBlank).reverse,
    allBlank_takeWhile text, ?_, ?_⟩
  · intro c member
    exact allBlank_takeWhile _ c (List.mem_reverse.mp member)
  · rw [trim, trimEnd, List.append_assoc, ← List.reverse_append, List.takeWhile_append_dropWhile,
      List.reverse_reverse, trimStart, List.takeWhile_append_dropWhile]

theorem isBlank_of_head?_dropWhile {c : Char}
    (head : (text.dropWhile isBlank).head? = some c) : isBlank c = false := by
  have stopped := List.head?_dropWhile_not isBlank text
  rw [head] at stopped
  exact stopped

theorem isTight_trim (text : List Char) : IsTight (trim text) where
  first := by
    intro c head
    have tail : ∃ after, trimStart text = trim text ++ after := by
      refine ⟨((trimStart text).reverse.takeWhile isBlank).reverse, ?_⟩
      rw [trim, trimEnd, ← List.reverse_append, List.takeWhile_append_dropWhile,
        List.reverse_reverse]
    obtain ⟨after, split⟩ := tail
    refine @isBlank_of_head?_dropWhile text _ ?_
    rw [← trimStart, split, List.head?_append, head]
    rfl
  last := by
    intro c last
    rw [trim, trimEnd, List.getLast?_reverse] at last
    exact isBlank_of_head?_dropWhile last

@[simp] theorem trim_nil : trim [] = [] := rfl

theorem mem_of_mem_trim {c : Char} (member : c ∈ trim text) : c ∈ text := by
  obtain ⟨front, back, -, -, split⟩ := exists_trim text
  rw [split]
  exact List.mem_append_left _ (List.mem_append_right _ member)

/-- Trimming a trimmed text changes nothing. -/
theorem trim_of_isTight (tight : IsTight text) : trim text = text := by
  simpa using trim_surrounded allBlank_nil allBlank_nil tight

@[simp] theorem trim_trim (text : List Char) : trim (trim text) = trim text :=
  trim_of_isTight (isTight_trim text)

/-- Blanks in front are trimmed away. -/
theorem trim_append_left (blank : AllBlank before) (text : List Char) :
    trim (before ++ text) = trim text := by
  obtain ⟨front, back, blankFront, blankBack, split⟩ := exists_trim text
  conv_lhs => rw [split, ← List.append_assoc, ← List.append_assoc]
  exact trim_surrounded (blank.append blankFront) blankBack (isTight_trim text)

/-- Blanks at the end are trimmed away. -/
theorem trim_append_right (blank : AllBlank after) (text : List Char) :
    trim (text ++ after) = trim text := by
  obtain ⟨front, back, blankFront, blankBack, split⟩ := exists_trim text
  conv_lhs => rw [split, List.append_assoc]
  exact trim_surrounded blankFront (blankBack.append blank) (isTight_trim text)

theorem trimStart_of_isTight (tight : IsTight text) : trimStart text = text :=
  trimStart_of_first tight.first

theorem allBlank_of_trimStart_eq_nil (none : trimStart text = []) : AllBlank text :=
  List.dropWhile_eq_nil_iff.mp none

/-- Leading blanks are the part that trimming the start takes away. -/
theorem exists_trimStart (text : List Char) :
    ∃ before, AllBlank before ∧ text = before ++ trimStart text :=
  ⟨text.takeWhile isBlank, allBlank_takeWhile text, List.takeWhile_append_dropWhile.symm⟩

end WatchedStore.Text
