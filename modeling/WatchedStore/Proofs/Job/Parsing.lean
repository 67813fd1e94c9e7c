import WatchedStore.Job.Line
import WatchedStore.Proofs.Job.Grammar

/-! # What the parser of job lines accepts

Each reader of a part of a line accepts exactly the texts that the grammar has for that part, and
reads them as what they spell. Every other line is refused under its own number; which of the faults
is named is left open.
-/

namespace WatchedStore.Job

open WatchedStore.Text

private theorem map_eq_ok_iff {α β ε : Type} {f : α → β} {result : Except ε α} {value : β} :
    result.map f = .ok value ↔ ∃ inner, result = .ok inner ∧ f inner = value := by
  cases result <;> simp [Except.map]

section Cuts

variable {text before after : List Char} {c : Char}

theorem splitFirst?_of_clear (clear : c ∉ before) (after : List Char) :
    splitFirst? (· = c) (before ++ c :: after) = some (before, after) :=
  splitFirst?_eq_some_iff.mpr
    ⟨fun _ member => decide_eq_false fun same => clear (same ▸ member), c, decide_eq_true rfl, rfl⟩

/-- The first occurrence of a character has none in front of it. -/
theorem of_splitFirst? (cut : splitFirst? (· = c) text = some (before, after)) :
    c ∉ before ∧ text = before ++ c :: after := by
  obtain ⟨clear, d, same, split⟩ := splitFirst?_eq_some_iff.mp cut
  obtain rfl : d = c := of_decide_eq_true same
  exact ⟨fun member => of_decide_eq_false (clear d member) rfl, split⟩

theorem pieces_of_clear (clear : c ∉ text) : pieces c text = [text] := by
  induction text with
  | nil => rfl
  | cons first rest ih =>
    obtain ⟨apart, clear⟩ := not_or.mp (mt List.mem_cons.mpr clear)
    rw [pieces, if_neg (Ne.symm apart), ih clear]

/-- What stands in front of the first separator is the first piece. -/
theorem pieces_append (clear : c ∉ before) (after : List Char) :
    pieces c (before ++ c :: after) = before :: pieces c after := by
  induction before with
  | nil => rw [List.nil_append, pieces, if_pos rfl]
  | cons first rest ih =>
    obtain ⟨apart, clear⟩ := not_or.mp (mt List.mem_cons.mpr clear)
    rw [List.cons_append, pieces, if_neg (Ne.symm apart), ih clear]

/-- The keyword reaches to the first blank. -/
theorem splitCommand_eq (text : List Char) :
    splitCommand text =
      (text.takeWhile fun c => !isBlank c, trim (text.dropWhile fun c => !isBlank c)) := by
  unfold splitCommand
  cases cut : splitFirst? isBlank text with
  | none =>
    have solid := splitFirst?_eq_none_iff.mp cut
    have kept : text.takeWhile (fun c => !isBlank c) = text :=
      List.takeWhile_eq_self_iff.mpr fun c member => by simp [solid c member]
    have none : text.dropWhile (fun c => !isBlank c) = [] :=
      List.dropWhile_eq_nil_iff.mpr fun c member => by simp [solid c member]
    rw [kept, none, trim_nil]
  | some parts =>
    obtain ⟨before, after⟩ := parts
    obtain ⟨solid, c, blank, rfl⟩ := splitFirst?_eq_some_iff.mp cut
    have inside : ∀ d ∈ before, (!isBlank d) = true := fun d member => by simp [solid d member]
    rw [List.takeWhile_append_of_pos inside, List.dropWhile_append_of_pos inside,
      List.takeWhile_cons_of_neg (by simp [blank]), List.dropWhile_cons_of_neg (by simp [blank]),
      List.append_nil]
    have dropped := trim_append_left (allBlank_singleton blank) after
    exact congrArg (Prod.mk before) dropped.symm

end Cuts

section Pairs

variable {text inside item : List Char} {pair : String × String} {pairs : List (String × String)}

theorem parsePair_eq_ok_iff :
    parsePair inside = .ok pair ↔ ∃ key value, inside = key ++ ',' :: value ∧ ',' ∉ key ∧
      trim key ≠ [] ∧ trim value ≠ [] ∧
      pair = (String.ofList (trim key), String.ofList (trim value)) := by
  unfold parsePair
  constructor
  · intro parsed
    cases cut : splitFirst? (fun c => c = ',') inside with
    | none =>
      rw [cut] at parsed
      cases parsed
    | some parts =>
      obtain ⟨key, value⟩ := parts
      obtain ⟨clear, split⟩ := of_splitFirst? cut
      rw [cut] at parsed
      dsimp only at parsed
      split at parsed
      · cases parsed
      · next sides =>
        obtain ⟨keyed, valued⟩ := not_or.mp sides
        exact ⟨key, value, split, clear, keyed, valued, (Except.ok.inj parsed).symm⟩
  · rintro ⟨key, value, rfl, clear, keyed, valued, rfl⟩
    rw [splitFirst?_of_clear clear]
    exact if_neg (not_or.mpr ⟨keyed, valued⟩)

/-- Between its parentheses a pair holds no closing one and what the reader of pairs accepts. -/
theorem spellsPair_iff :
    SpellsPair ('(' :: inside ++ [')']) pair ↔ ')' ∉ inside ∧ parsePair inside = .ok pair := by
  rw [parsePair_eq_ok_iff]
  constructor
  · intro spelled
    generalize shape : '(' :: inside ++ [')'] = item at spelled
    cases spelled with
    | @intro key value keyClear valueClear keyed valued =>
      obtain rfl : inside = key ++ ',' :: value :=
        (List.cons.inj (List.append_cancel_right shape)).2
      refine ⟨?_, key, value, rfl, keyClear.1, keyed, valued, rfl⟩
      simpa using ⟨keyClear.2, valueClear⟩
  · rintro ⟨closed, key, value, rfl, clear, keyed, valued, rfl⟩
    simp only [List.mem_append, List.mem_cons, not_or] at closed
    exact .intro ⟨clear, closed.1⟩ closed.2.2 keyed valued

/-- The reader of items takes one pair off the front. -/
theorem parseItems_append (spelled : SpellsPair item pair) (after : List Char) :
    parseItems (item ++ after) = (parseItems (trimStart after)).map (pair :: ·) := by
  obtain ⟨inside, rfl⟩ : ∃ inside, item = '(' :: inside ++ [')'] := by
    cases spelled with
    | @intro key value => exact ⟨key ++ ',' :: value, rfl⟩
  obtain ⟨closed, parsed⟩ := spellsPair_iff.mp spelled
  have cut := splitFirst?_of_clear closed after
  rw [List.append_assoc, List.singleton_append, List.cons_append, parseItems,
    if_neg (not_not.mpr rfl)]
  split
  · next none => cases none.symm.trans cut
  · next text rest found =>
    obtain ⟨rfl, rfl⟩ := Prod.mk.inj (Option.some.inj (found.symm.trans cut))
    rw [parsed]

theorem parseItems_of_spells (listed : SpellsPairs text pairs) :
    parseItems (trimStart text) = .ok pairs := by
  have solid : ∀ {item after : List Char} {pair : String × String}, SpellsPair item pair →
      trimStart (item ++ after) = item ++ after := by
    intro item after pair spelled
    apply trimStart_of_first
    rw [List.head?_append_of_ne_nil _ spelled.text_ne_nil]
    exact spelled.isTight.first
  induction listed with
  | @last gap item trail pair gapBlank spelled trailBlank =>
    have none : trimStart trail = [] := List.dropWhile_eq_nil_iff.mpr trailBlank
    rw [List.append_assoc, trimStart_append gapBlank, solid spelled, parseItems_append spelled,
      none, parseItems]
    rfl
  | @more gap item rest pair pairs gapBlank spelled later ih =>
    rw [List.append_assoc, trimStart_append gapBlank, solid spelled, parseItems_append spelled, ih]
    rfl

theorem spells_of_parseItems (parsed : parseItems text = .ok pairs) :
    text = [] ∧ pairs = [] ∨ SpellsPairs text pairs := by
  fun_induction parseItems text generalizing pairs with
  | case1 => exact .inl ⟨rfl, (Except.ok.inj parsed).symm⟩
  | case2 | case3 | case4 => cases parsed
  | case5 c body opened inside after cut pair read ih =>
    obtain rfl : c = '(' := not_not.mp opened
    obtain ⟨closed, rfl⟩ := of_splitFirst? cut
    have spelled := spellsPair_iff.mpr ⟨closed, read⟩
    have shape : '(' :: (inside ++ ')' :: after) = [] ++ ('(' :: inside ++ [')']) ++ after := by
      simp
    obtain ⟨others, later, rfl⟩ := map_eq_ok_iff.mp parsed
    rw [shape]
    refine .inr ?_
    rcases ih later with ⟨none, rfl⟩ | listed
    · exact .last allBlank_nil spelled (allBlank_of_trimStart_eq_nil none)
    · -- The blanks that were skipped belong to the pairs behind them.
      obtain ⟨gap, blank, split⟩ := exists_trimStart after
      have spaced := listed.surround blank allBlank_nil
      rw [List.append_nil, ← split] at spaced
      exact .more allBlank_nil spelled spaced

theorem bracketed_eq_ok_iff {rest inner : List Char} :
    bracketed rest = .ok inner ↔ ∃ whole, rest = '[' :: whole ++ [']'] ∧ inner = trim whole := by
  unfold bracketed
  cases cut : between? '[' ']' rest with
  | none =>
    simp only [reduceCtorEq, false_iff]
    rintro ⟨whole, framed, -⟩
    cases cut.symm.trans (between?_eq_some_iff.mpr framed)
  | some whole =>
    have framed := between?_eq_some_iff.mp cut
    constructor
    · intro same
      exact ⟨whole, framed, (Except.ok.inj same).symm⟩
    · rintro ⟨other, again, rfl⟩
      cases cut.symm.trans (between?_eq_some_iff.mpr again)
      rfl

/-- A list of pairs is accepted exactly if the grammar has it. -/
theorem parsePairs_eq_ok_iff {rest : List Char} :
    parsePairs rest = .ok pairs ↔
      ∃ inner, rest = '[' :: inner ++ [']'] ∧ SpellsPairs inner pairs := by
  unfold parsePairs
  constructor
  · intro parsed
    cases framed : bracketed rest with
    | error fault =>
      rw [framed] at parsed
      cases parsed
    | ok trimmed =>
      obtain ⟨inner, shape, rfl⟩ := bracketed_eq_ok_iff.mp framed
      obtain ⟨front, back, blankFront, blankBack, split⟩ := exists_trim inner
      rw [framed] at parsed
      dsimp only at parsed
      split at parsed
      · cases parsed
      · next nonempty =>
        rcases spells_of_parseItems parsed with ⟨-, rfl⟩ | listed
        · exact absurd parsed nonempty
        · refine ⟨inner, shape, ?_⟩
          rw [split]
          exact listed.surround blankFront blankBack
  · rintro ⟨inner, rfl, listed⟩
    have parsed := parseItems_of_spells listed.trim
    rw [trimStart_of_isTight (isTight_trim inner)] at parsed
    rw [bracketed_eq_ok_iff.mpr ⟨inner, rfl, rfl⟩]
    dsimp only
    rw [parsed]
    split
    · next none => exact absurd (Except.ok.inj none) listed.ne_nil
    · rfl

end Pairs

section Keys

variable {text rest : List Char} {keys : List String}

theorem keysOfPieces_cons {piece : List Char} {others : List (List Char)} :
    keysOfPieces (piece :: others) = .ok keys ↔ trim piece ≠ [] ∧
      ∃ later, keysOfPieces others = .ok later ∧ String.ofList (trim piece) :: later = keys := by
  rw [keysOfPieces]
  split
  · next empty => simp [empty]
  · next keyed => simp only [map_eq_ok_iff, ne_eq, keyed, not_false_eq_true, true_and]

/-- The pieces between the commas name keys exactly if the grammar has the list. -/
theorem keysOfPieces_eq_ok_iff : keysOfPieces (pieces ',' text) = .ok keys ↔ SpellsKeys text keys := by
  constructor
  · intro parsed
    -- One step is one key, so the induction goes to what stands behind the first comma.
    induction size : text.length using Nat.strongRecOn generalizing text keys with
    | ind size ih =>
      subst size
      cases cut : splitFirst? (fun c => c = ',') text with
      | none =>
        have clear : ',' ∉ text := fun member =>
          of_decide_eq_false (splitFirst?_eq_none_iff.mp cut ',' member) rfl
        rw [pieces_of_clear clear, keysOfPieces_cons] at parsed
        obtain ⟨keyed, later, none, rfl⟩ := parsed
        obtain rfl : [] = later := Except.ok.inj none
        exact .last clear keyed
      | some parts =>
        obtain ⟨piece, after⟩ := parts
        obtain ⟨clear, rfl⟩ := of_splitFirst? cut
        rw [pieces_append clear, keysOfPieces_cons] at parsed
        obtain ⟨keyed, later, read, rfl⟩ := parsed
        have shorter : after.length < (piece ++ ',' :: after).length := by
          simp only [List.length_append, List.length_cons]
          omega
        exact .more clear keyed (ih _ shorter read rfl)
  · intro listed
    induction listed with
    | last clear keyed =>
      rw [pieces_of_clear clear, keysOfPieces_cons]
      exact ⟨keyed, [], rfl, rfl⟩
    | more clear keyed later ih =>
      rw [pieces_append clear, keysOfPieces_cons]
      exact ⟨keyed, _, ih, rfl⟩

/-- A list of keys is accepted exactly if the grammar has it. -/
theorem parseKeys_eq_ok_iff :
    parseKeys rest = .ok keys ↔ ∃ inner, rest = '[' :: inner ++ [']'] ∧ SpellsKeys inner keys := by
  unfold parseKeys
  constructor
  · intro parsed
    cases framed : bracketed rest with
    | error fault =>
      rw [framed] at parsed
      cases parsed
    | ok trimmed =>
      obtain ⟨inner, shape, rfl⟩ := bracketed_eq_ok_iff.mp framed
      obtain ⟨front, back, blankFront, blankBack, split⟩ := exists_trim inner
      rw [framed] at parsed
      split at parsed
      · cases parsed
      · cases parsed
      · next same =>
        cases same
        refine ⟨inner, shape, ?_⟩
        rw [split]
        exact (keysOfPieces_eq_ok_iff.mp parsed).surround blankFront blankBack
  · rintro ⟨inner, rfl, listed⟩
    rw [bracketed_eq_ok_iff.mpr ⟨inner, rfl, rfl⟩]
    have parsed := keysOfPieces_eq_ok_iff.mpr listed.trim
    split
    · next failed => cases failed
    · next empty => exact absurd (Except.ok.inj empty) listed.trim.text_ne_nil
    · next same =>
      cases same
      exact parsed

end Keys

section Numbers

variable {rest digits : List Char} {milliseconds : Nat}

theorem digitsValue_eq (digits : List Char) : digitsValue digits = Nat.ofDigitChars 10 digits 0 := by
  unfold digitsValue Nat.ofDigitChars
  congr 1
  funext value digit
  rw [Nat.mul_comm]

theorem dropPlus_of_decimal (decimal : ∀ c ∈ digits, c.isDigit = true) : dropPlus digits = digits := by
  unfold dropPlus
  split
  · exact absurd (decimal '+' List.mem_cons_self) (by decide)
  · rfl

/-- A number is read from digits that may have one plus sign in front of them. -/
theorem parseUnsigned?_eq_some_iff {bound number : Nat} {text : List Char} :
    parseUnsigned? bound text = some number ↔ ∃ digits, (text = digits ∨ text = '+' :: digits) ∧
      digits ≠ [] ∧ (∀ c ∈ digits, c.isDigit = true) ∧ Nat.ofDigitChars 10 digits 0 < bound ∧
      number = Nat.ofDigitChars 10 digits 0 := by
  unfold parseUnsigned?
  simp only [Option.ite_none_right_eq_some, Option.some.injEq, digitsValue_eq, List.all_eq_true]
  constructor
  · rintro ⟨⟨nonempty, decimal, fits⟩, rfl⟩
    refine ⟨dropPlus text, ?_, nonempty, decimal, fits, rfl⟩
    unfold dropPlus
    split
    · exact .inr rfl
    · exact .inl rfl
  · rintro ⟨digits, shape, nonempty, decimal, fits, rfl⟩
    have same : dropPlus text = digits := by
      rcases shape with rfl | rfl
      · exact dropPlus_of_decimal decimal
      · rfl
    rw [same]
    exact ⟨⟨nonempty, decimal, fits⟩, rfl⟩

/-- A delay is accepted exactly if the grammar has it. -/
theorem parseDelay_eq_ok_iff : parseDelay rest = .ok milliseconds ↔ SpellsDelay rest milliseconds := by
  have accepted :
      parseDelay rest = .ok milliseconds ↔ parseUnsigned? wordBound rest = some milliseconds := by
    unfold parseDelay
    cases parseUnsigned? wordBound rest <;> simp
  rw [accepted, parseUnsigned?_eq_some_iff]
  constructor
  · rintro ⟨digits, rfl | rfl, nonempty, decimal, fits, rfl⟩
    · exact .bare nonempty decimal fits
    · exact .signed nonempty decimal fits
  · intro number
    cases number with
    | bare nonempty decimal fits => exact ⟨_, .inl rfl, nonempty, decimal, fits, rfl⟩
    | signed nonempty decimal fits => exact ⟨_, .inr rfl, nonempty, decimal, fits, rfl⟩

end Numbers

section Commands

variable {command : String} {rest : List Char} {operation : Operation}

theorem withoutArguments_eq_ok_iff {lone : Operation} :
    withoutArguments lone rest = .ok operation ↔ rest = [] ∧ operation = lone := by
  unfold withoutArguments
  split <;> simp_all [eq_comm]

/-- A command is accepted exactly if the grammar has it. -/
theorem parseCommand_eq_ok_iff :
    parseCommand command rest = .ok operation ↔ Spells command rest operation := by
  constructor
  · intro parsed
    unfold parseCommand at parsed
    split at parsed
    · next same =>
      obtain ⟨pairs, read, rfl⟩ := map_eq_ok_iff.mp parsed
      obtain ⟨inner, rfl, listed⟩ := parsePairs_eq_ok_iff.mp read
      exact same ▸ .write listed
    split at parsed
    · next same =>
      obtain ⟨keys, read, rfl⟩ := map_eq_ok_iff.mp parsed
      obtain ⟨inner, rfl, listed⟩ := parseKeys_eq_ok_iff.mp read
      exact same ▸ .read listed
    split at parsed
    · next same =>
      obtain ⟨keys, read, rfl⟩ := map_eq_ok_iff.mp parsed
      obtain ⟨inner, rfl, listed⟩ := parseKeys_eq_ok_iff.mp read
      exact same ▸ .delete listed
    split at parsed
    · next same =>
      obtain ⟨milliseconds, read, rfl⟩ := map_eq_ok_iff.mp parsed
      exact same ▸ .wait (parseDelay_eq_ok_iff.mp read)
    split at parsed
    · next same =>
      obtain ⟨rfl, rfl⟩ := withoutArguments_eq_ok_iff.mp parsed
      exact same ▸ .print
    split at parsed
    · next same =>
      obtain ⟨rfl, rfl⟩ := withoutArguments_eq_ok_iff.mp parsed
      exact same ▸ .backup
    split at parsed
    · next same =>
      obtain ⟨rfl, rfl⟩ := withoutArguments_eq_ok_iff.mp parsed
      exact same ▸ .help
    · cases parsed
  · intro spelled
    cases spelled with
    | write listed => exact map_eq_ok_iff.mpr ⟨_, parsePairs_eq_ok_iff.mpr ⟨_, rfl, listed⟩, rfl⟩
    | read listed => exact map_eq_ok_iff.mpr ⟨_, parseKeys_eq_ok_iff.mpr ⟨_, rfl, listed⟩, rfl⟩
    | delete listed => exact map_eq_ok_iff.mpr ⟨_, parseKeys_eq_ok_iff.mpr ⟨_, rfl, listed⟩, rfl⟩
    | wait number => exact map_eq_ok_iff.mpr ⟨_, parseDelay_eq_ok_iff.mpr number, rfl⟩
    | print | backup | help => rfl

end Commands

section Lines

variable {line : List Char} {operation : Operation}

/-- Nothing but blanks, or a comment. -/
def IsIdle (line : List Char) : Prop := trim line = [] ∨ (trim line).head? = some '#'

/-- The keyword of a line: what stands in front of the first blank. -/
def keyword (line : List Char) : String :=
  String.ofList ((trim line).takeWhile fun c => !isBlank c)

/-- The argument of a line: what stands behind the keyword, without the blanks around it. -/
def argument (line : List Char) : List Char :=
  trim ((trim line).dropWhile fun c => !isBlank c)

/-- A line is idle, or the parser goes by its keyword and its argument. -/
theorem parseText_eq (line : List Char) :
    (IsIdle line ∧ parseText line = .ok none) ∨
      ¬ IsIdle line ∧
        parseText line = (parseCommand (keyword line) (argument line)).map some := by
  unfold parseText IsIdle
  split
  · next empty => exact .inl ⟨.inl empty, rfl⟩
  · next rest comment => exact .inl ⟨.inr (comment ▸ rfl), rfl⟩
  · next nonempty solid =>
    refine .inr ⟨?_, ?_⟩
    · rintro (empty | comment)
      · exact nonempty empty
      · obtain ⟨rest, shape⟩ := List.head?_eq_some_iff.mp comment
        exact solid rest shape
    · rw [splitCommand_eq]
      rfl

theorem parseText_eq_none_iff : parseText line = .ok none ↔ IsIdle line := by
  rcases parseText_eq line with ⟨idle, parsed⟩ | ⟨busy, parsed⟩
  · simp only [parsed, idle]
  · simp only [parsed, busy, map_eq_ok_iff, reduceCtorEq, and_false, exists_false]

theorem parseText_eq_some_iff :
    parseText line = .ok (some operation) ↔
      ¬ IsIdle line ∧ Spells (keyword line) (argument line) operation := by
  rw [← parseCommand_eq_ok_iff]
  rcases parseText_eq line with ⟨idle, parsed⟩ | ⟨busy, parsed⟩
  · simp [parsed, idle]
  · simp [parsed, busy, map_eq_ok_iff]

/-- A line that reads or deletes keys names none with a comma. -/
theorem comma_not_mem_of_parseText {keys : List String}
    (parsed : parseText line = .ok (some (.read keys)) ∨
      parseText line = .ok (some (.delete keys))) : ∀ key ∈ keys, ',' ∉ key.toList := by
  simp only [parseText_eq_some_iff, ← and_or_left] at parsed
  obtain ⟨-, spelled⟩ := parsed
  generalize keyword line = word, argument line = rest at spelled
  rcases spelled with spelled | spelled
  · cases spelled with
    | read listed => exact listed.comma_not_mem
  · cases spelled with
    | delete listed => exact listed.comma_not_mem

/-- The number of a line shows only in its fault. -/
theorem parseLine_eq_ok_iff {number : Nat} {text : String} {result : Option Operation} :
    parseLine number text = .ok result ↔ parseText text.toList = .ok result := by
  unfold parseLine
  cases parseText text.toList <;> simp [Except.mapError]

theorem parseLine_eq_error {number : Nat} {text : String} {error : Error}
    (refused : parseLine number text = .error error) : ∃ fault, error = .parse number fault := by
  unfold parseLine at refused
  cases parsed : parseText text.toList with
  | ok result =>
    rw [parsed] at refused
    cases refused
  | error fault =>
    rw [parsed] at refused
    cases refused
    exact ⟨fault, rfl⟩

/-- The parser accepts exactly the lines of the grammar. With the blanks at its ends taken away, a
line without anything left and a line that starts with a number sign are no operation. Any other
line is an operation exactly if its argument spells one for its keyword, and it is that one; a line
that spells none is refused under its number. -/
theorem parseLine_iff_grammar (number : Nat) (line : String) :
    let text := trim line.toList
    let idle := text = [] ∨ text.head? = some '#'
    let keyword := String.ofList (text.takeWhile fun c => !isBlank c)
    let argument := trim (text.dropWhile fun c => !isBlank c)
    (parseLine number line = .ok none ↔ idle) ∧
    (∀ operation, parseLine number line = .ok (some operation) ↔
      ¬ idle ∧ Spells keyword argument operation) ∧
    ((∃ fault, parseLine number line = .error (.parse number fault)) ↔
      ¬ idle ∧ ∀ operation, ¬ Spells keyword argument operation) := by
  intro text idle keyword argument
  have isNone : parseLine number line = .ok none ↔ idle :=
    parseLine_eq_ok_iff.trans parseText_eq_none_iff
  have isSome : ∀ operation, parseLine number line = .ok (some operation) ↔
      ¬ idle ∧ Spells keyword argument operation :=
    fun operation => parseLine_eq_ok_iff.trans parseText_eq_some_iff
  refine ⟨isNone, isSome, ?_, ?_⟩
  · rintro ⟨fault, refused⟩
    have busy : ¬ idle := fun rests => nomatch refused.symm.trans (isNone.mpr rests)
    exact ⟨busy, fun operation spelled =>
      nomatch refused.symm.trans ((isSome operation).mpr ⟨busy, spelled⟩)⟩
  · rintro ⟨busy, unspelled⟩
    cases parsed : parseLine number line with
    | error error =>
      obtain ⟨fault, rfl⟩ := parseLine_eq_error parsed
      exact ⟨fault, rfl⟩
    | ok result =>
      cases result with
      | none => exact absurd (isNone.mp parsed) busy
      | some operation => exact absurd ((isSome operation).mp parsed).2 (unspelled operation)

end Lines

end WatchedStore.Job
