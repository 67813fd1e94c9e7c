/-! # Cutting a text

Four cuts on lists of characters: at the first and at the last character of a class, at every
occurrence of a separator, and between a required first and last character. Nothing but the cutting
characters is lost.
-/

namespace WatchedStore.Text

/-- What stands before and after the first character of the class `p`. -/
def splitFirst? (p : Char → Bool) : List Char → Option (List Char × List Char)
  | [] => none
  | c :: rest =>
    if p c then some ([], rest)
    else (splitFirst? p rest).map fun (before, after) => (c :: before, after)

/-- What stands before and after the last character of the class `p`. -/
def splitLast? (p : Char → Bool) (text : List Char) : Option (List Char × List Char) :=
  (splitFirst? p text.reverse).map fun (after, before) => (before.reverse, after.reverse)

/-- The pieces between the occurrences of a separator; there is always at least one. -/
def pieces (separator : Char) : List Char → List (List Char)
  | [] => [[]]
  | c :: rest =>
    if c = separator then [] :: pieces separator rest
    else
      match pieces separator rest with
      | [] => [[c]]
      | piece :: others => (c :: piece) :: others

/-- The text between a required first and a required last character. -/
def between? (first last : Char) : List Char → Option (List Char)
  | [] => none
  | c :: rest => if c = first ∧ rest.getLast? = some last then some rest.dropLast else none

theorem splitFirst?_eq_some_iff {p : Char → Bool} {text before after : List Char} :
    splitFirst? p text = some (before, after) ↔
      (∀ c ∈ before, p c = false) ∧ ∃ c, p c = true ∧ text = before ++ c :: after := by
  induction text generalizing before with
  | nil => simp [splitFirst?]
  | cons c rest ih =>
    by_cases hc : p c = true
    · simp only [splitFirst?, hc, if_true, Option.some.injEq, Prod.mk.injEq]
      constructor
      · rintro ⟨rfl, rfl⟩
        exact ⟨by simp, c, hc, rfl⟩
      · rintro ⟨clear, d, hd, eq⟩
        cases before with
        | nil => simp at eq; exact ⟨rfl, eq.2⟩
        | cons b bs =>
          simp only [List.cons_append, List.cons.injEq] at eq
          simp [← eq.1, hc] at clear
    · simp only [splitFirst?, hc, Bool.false_eq_true, if_false, Option.map_eq_some_iff,
        Prod.exists, Prod.mk.injEq]
      constructor
      · rintro ⟨b, a, found, rfl, rfl⟩
        obtain ⟨clear, d, hd, rfl⟩ := ih.1 found
        exact ⟨by simpa [hc] using clear, d, hd, rfl⟩
      · rintro ⟨clear, d, hd, eq⟩
        cases before with
        | nil => simp at eq; simp [eq.1, hd] at hc
        | cons b bs =>
          simp only [List.cons_append, List.cons.injEq] at eq
          obtain ⟨rfl, rfl⟩ := eq
          refine ⟨bs, after, ih.2 ⟨fun x hx => clear x (by simp [hx]), d, hd, rfl⟩, rfl, rfl⟩

theorem splitFirst?_eq_none_iff {p : Char → Bool} {text : List Char} :
    splitFirst? p text = none ↔ ∀ c ∈ text, p c = false := by
  induction text with
  | nil => simp [splitFirst?]
  | cons c rest ih => by_cases hc : p c = true <;> simp_all [splitFirst?]

theorem splitLast?_eq_some_iff {p : Char → Bool} {text before after : List Char} :
    splitLast? p text = some (before, after) ↔
      (∀ c ∈ after, p c = false) ∧ ∃ c, p c = true ∧ text = before ++ c :: after := by
  have flip (c : Char) :
      text.reverse = after.reverse ++ c :: before.reverse ↔ text = before ++ c :: after := by
    rw [List.reverse_eq_iff]
    simp
  have cut : splitLast? p text = some (before, after) ↔
      splitFirst? p text.reverse = some (after.reverse, before.reverse) := by
    simp only [splitLast?, Option.map_eq_some_iff, Prod.exists, Prod.mk.injEq]
    constructor
    · rintro ⟨a, b, found, rfl, rfl⟩
      simpa using found
    · exact fun found => ⟨_, _, found, by simp, by simp⟩
  simp [cut, splitFirst?_eq_some_iff, flip]

theorem between?_eq_some_iff {first last : Char} {text inner : List Char} :
    between? first last text = some inner ↔ text = first :: inner ++ [last] := by
  cases text with
  | nil => simp [between?]
  | cons c rest =>
    simp only [between?]
    constructor
    · intro h
      split at h
      · next both =>
        obtain ⟨rfl, lastRest⟩ := both
        have eq := (List.getLast?_eq_some_iff.1 lastRest)
        obtain ⟨ys, rfl⟩ := eq
        simp at h
        simp [h]
      · simp at h
    · intro h
      simp only [List.cons_append, List.cons.injEq] at h
      obtain ⟨rfl, rfl⟩ := h
      simp

end WatchedStore.Text
