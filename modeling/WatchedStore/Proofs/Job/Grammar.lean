import WatchedStore.Job.Operation
import WatchedStore.Proofs.Text.Trim
import WatchedStore.Text.Number

/-! # The grammar of a job line

What a command may look like, as relations between a text and what it spells. None of them says how
a text is searched: a pair ends at its first closing parenthesis because neither side may hold one,
and a key reaches to the first comma because it may not hold one. Blanks around the items of a list
belong to the list, and blanks around a key or a value are not part of it.
-/

namespace WatchedStore.Job

open WatchedStore.Text

/-- A pair in its parentheses. A value may hold commas, and both sides may hold an opening
parenthesis. -/
inductive SpellsPair : List Char → String × String → Prop
  | intro {key value : List Char} (keyClear : ',' ∉ key ∧ ')' ∉ key) (valueClear : ')' ∉ value)
      (keyed : trim key ≠ []) (valued : trim value ≠ []) :
      SpellsPair ('(' :: (key ++ ',' :: value) ++ [')'])
        (String.ofList (trim key), String.ofList (trim value))

/-- One pair behind the other, with any blanks in front of each and behind the last. -/
inductive SpellsPairs : List Char → List (String × String) → Prop
  | last {gap item trail : List Char} {pair : String × String} (gapBlank : AllBlank gap)
      (spelled : SpellsPair item pair) (trailBlank : AllBlank trail) :
      SpellsPairs (gap ++ item ++ trail) [pair]
  | more {gap item rest : List Char} {pair : String × String} {pairs : List (String × String)}
      (gapBlank : AllBlank gap) (spelled : SpellsPair item pair) (later : SpellsPairs rest pairs) :
      SpellsPairs (gap ++ item ++ rest) (pair :: pairs)

/-- Keys with commas between them; none is blank. -/
inductive SpellsKeys : List Char → List String → Prop
  | last {piece : List Char} (clear : ',' ∉ piece) (keyed : trim piece ≠ []) :
      SpellsKeys piece [String.ofList (trim piece)]
  | more {piece rest : List Char} {keys : List String} (clear : ',' ∉ piece)
      (keyed : trim piece ≠ []) (later : SpellsKeys rest keys) :
      SpellsKeys (piece ++ ',' :: rest) (String.ofList (trim piece) :: keys)

/-- ASCII digits, one at least, whose value fits in 64 bits; a plus sign may stand in front. -/
inductive SpellsDelay : List Char → Nat → Prop
  | bare {digits : List Char} (nonempty : digits ≠ []) (decimal : ∀ c ∈ digits, c.isDigit = true)
      (fits : Nat.ofDigitChars 10 digits 0 < wordBound) :
      SpellsDelay digits (Nat.ofDigitChars 10 digits 0)
  | signed {digits : List Char} (nonempty : digits ≠ []) (decimal : ∀ c ∈ digits, c.isDigit = true)
      (fits : Nat.ofDigitChars 10 digits 0 < wordBound) :
      SpellsDelay ('+' :: digits) (Nat.ofDigitChars 10 digits 0)

/-- The operation that a keyword asks for with an argument. -/
inductive Spells : String → List Char → Operation → Prop
  | write {inner : List Char} {pairs : List (String × String)} (listed : SpellsPairs inner pairs) :
      Spells "WRITE" ('[' :: inner ++ [']']) (.write pairs)
  | read {inner : List Char} {keys : List String} (listed : SpellsKeys inner keys) :
      Spells "READ" ('[' :: inner ++ [']']) (.read keys)
  | delete {inner : List Char} {keys : List String} (listed : SpellsKeys inner keys) :
      Spells "DELETE" ('[' :: inner ++ [']']) (.delete keys)
  | wait {argument : List Char} {milliseconds : Nat}
      (number : SpellsDelay argument milliseconds) :
      Spells "WAIT" argument (.wait milliseconds)
  | print : Spells "SHOW" [] .print
  | backup : Spells "BACKUP" [] .backup
  | help : Spells "HELP" [] .help

variable {text before after : List Char} {pair : String × String} {pairs : List (String × String)}
  {keys : List String}

/-- A comma is not blank. -/
theorem comma_not_mem_of_allBlank (blank : AllBlank text) : ',' ∉ text :=
  fun member => absurd (blank _ member) (by decide)

theorem SpellsPair.text_ne_nil (spelled : SpellsPair text pair) : text ≠ [] := by
  cases spelled with
  | intro => exact List.cons_ne_nil _ _

theorem SpellsPair.isTight (spelled : SpellsPair text pair) : IsTight text := by
  cases spelled with
  | intro =>
    constructor
    · intro c head
      obtain rfl : '(' = c := by simpa using head
      decide
    · intro c last
      rw [List.getLast?_concat, Option.some.injEq] at last
      rw [← last]
      decide

/-- Both sides of a pair are trimmed. -/
theorem SpellsPair.trimmed (spelled : SpellsPair text pair) :
    trim pair.1.toList = pair.1.toList ∧ trim pair.2.toList = pair.2.toList := by
  cases spelled with
  | intro => simp only [String.toList_ofList, trim_trim, and_self]

theorem SpellsPairs.ne_nil (listed : SpellsPairs text pairs) : pairs ≠ [] := by
  cases listed with
  | last | more => exact List.cons_ne_nil _ _

/-- Every pair of a list is trimmed. -/
theorem SpellsPairs.trimmed (listed : SpellsPairs text pairs) :
    ∀ pair ∈ pairs, trim pair.1.toList = pair.1.toList ∧ trim pair.2.toList = pair.2.toList := by
  induction listed with
  | last _ spelled _ =>
    intro pair member
    rw [List.mem_singleton.mp member]
    exact spelled.trimmed
  | more _ spelled _ ih =>
    intro pair member
    rcases List.mem_cons.mp member with rfl | member
    · exact spelled.trimmed
    · exact ih pair member

/-- Blanks around a list of pairs do not change what it spells. -/
theorem SpellsPairs.surround (blankBefore : AllBlank before) (listed : SpellsPairs text pairs)
    (blankAfter : AllBlank after) : SpellsPairs (before ++ text ++ after) pairs := by
  induction listed generalizing before with
  | @last gap item trail pair gapBlank spelled trailBlank =>
    have whole := SpellsPairs.last (blankBefore.append gapBlank) spelled
      (trailBlank.append blankAfter)
    simpa only [List.append_assoc] using whole
  | @more gap item rest pair pairs gapBlank spelled later ih =>
    have whole := SpellsPairs.more (blankBefore.append gapBlank) spelled (ih allBlank_nil)
    simpa only [List.nil_append, List.append_assoc] using whole

theorem SpellsPairs.text_ne_nil (listed : SpellsPairs text pairs) : text ≠ [] := by
  rintro rfl
  generalize empty : ([] : List Char) = text at listed
  cases listed with
  | last _ spelled _ | more _ spelled _ =>
    cases spelled with
    | intro => simp at empty

/-- Nor does trimming it. -/
theorem SpellsPairs.trim (listed : SpellsPairs text pairs) : SpellsPairs (trim text) pairs := by
  induction listed with
  | @last gap item trail pair gapBlank spelled trailBlank =>
    rw [trim_surrounded gapBlank trailBlank spelled.isTight]
    simpa using SpellsPairs.last allBlank_nil spelled allBlank_nil
  | @more gap item rest pair pairs gapBlank spelled later ih =>
    obtain ⟨front, back, blankFront, blankBack, split⟩ := exists_trim rest
    have tight := spelled.isTight.append (isTight_trim rest) spelled.text_ne_nil ih.text_ne_nil front
    have core : Text.trim (gap ++ item ++ rest) = item ++ front ++ Text.trim rest := by
      conv_lhs => rw [split]
      rw [← trim_surrounded gapBlank blankBack tight]
      simp only [List.append_assoc]
    have whole := SpellsPairs.more allBlank_nil spelled (ih.surround blankFront allBlank_nil)
    rw [core]
    simpa only [List.nil_append, List.append_nil, List.append_assoc] using whole

theorem SpellsKeys.text_ne_nil (listed : SpellsKeys text keys) : text ≠ [] := by
  rintro rfl
  generalize empty : ([] : List Char) = text at listed
  cases listed with
  | last _ keyed => exact keyed (empty ▸ rfl)
  | more => simp at empty

/-- A key in a list of keys reaches to the next comma. -/
theorem SpellsKeys.comma_not_mem (listed : SpellsKeys text keys) : ∀ key ∈ keys, ',' ∉ key.toList := by
  have trimmed : ∀ {piece : List Char}, ',' ∉ piece →
      ',' ∉ (String.ofList (Text.trim piece)).toList := by
    intro piece clear member
    rw [String.toList_ofList] at member
    exact clear (Text.mem_of_mem_trim member)
  induction listed with
  | last clear _ =>
    intro key member
    rw [List.mem_singleton.mp member]
    exact trimmed clear
  | more clear _ _ ih =>
    intro key member
    rcases List.mem_cons.mp member with rfl | member
    · exact trimmed clear
    · exact ih key member

/-- Blanks around a list of keys do not change what it spells. -/
theorem SpellsKeys.surround (blankBefore : AllBlank before) (listed : SpellsKeys text keys)
    (blankAfter : AllBlank after) : SpellsKeys (before ++ text ++ after) keys := by
  induction listed generalizing before with
  | @last piece clear keyed =>
    have trimmed : Text.trim (before ++ piece ++ after) = Text.trim piece := by
      rw [trim_append_right blankAfter, trim_append_left blankBefore]
    rw [← trimmed] at keyed ⊢
    refine SpellsKeys.last ?_ keyed
    simp only [List.mem_append, not_or]
    exact ⟨⟨comma_not_mem_of_allBlank blankBefore, clear⟩, comma_not_mem_of_allBlank blankAfter⟩
  | @more piece rest keys clear keyed later ih =>
    have trimmed := trim_append_left blankBefore piece
    have whole := @SpellsKeys.more (before ++ piece) _ _
      (by simpa using ⟨comma_not_mem_of_allBlank blankBefore, clear⟩) (trimmed ▸ keyed)
      (ih allBlank_nil)
    rw [trimmed] at whole
    simpa only [List.nil_append, List.append_assoc, List.cons_append] using whole

/-- Nor does trimming it. -/
theorem SpellsKeys.trim (listed : SpellsKeys text keys) : SpellsKeys (trim text) keys := by
  induction listed with
  | @last piece clear keyed =>
    have whole := @SpellsKeys.last (Text.trim piece) (fun member => clear (mem_of_mem_trim member))
    rw [trim_trim] at whole
    exact whole keyed
  | @more piece rest keys clear keyed later ih =>
    obtain ⟨front, back, blankFront, blankBack, split⟩ := exists_trim piece
    obtain ⟨restFront, restBack, blankRestFront, blankRestBack, restSplit⟩ := exists_trim rest
    have tight := (isTight_trim piece).append (isTight_trim rest) keyed ih.text_ne_nil
      (back ++ ',' :: restFront)
    have core : Text.trim (piece ++ ',' :: rest) =
        (Text.trim piece ++ back) ++ ',' :: (restFront ++ Text.trim rest) := by
      conv_lhs => rw [split, restSplit]
      have whole := trim_surrounded blankFront blankRestBack tight
      simpa only [List.append_assoc, List.cons_append] using whole
    have trimmed : Text.trim (Text.trim piece ++ back) = Text.trim piece := by
      rw [trim_append_right blankBack, trim_trim]
    have whole := @SpellsKeys.more (Text.trim piece ++ back) _ _
      (by simpa using ⟨fun member => clear (mem_of_mem_trim member),
        comma_not_mem_of_allBlank blankBack⟩)
      (by rwa [trimmed]) (ih.surround blankRestFront allBlank_nil)
    rw [core]
    simpa only [trimmed, List.append_nil] using whole

end WatchedStore.Job
