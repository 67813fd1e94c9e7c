import WatchedStore.Proofs.Job.Parsing
import WatchedStore.Shell

/-! # The arguments of shell commands

The shell cuts a line into a keyword and an argument as the parser of job lines does. A list that
names one key is the argument of a subscription exactly if a job can read that key with it, and a
pause of the shell takes the numbers that a pause of a job takes. Any other argument makes the
command of the shell invalid, also a list of several keys, which is fine in a job.
-/

namespace WatchedStore

open WatchedStore.Text

namespace Job

/-- A word that a command can begin with. -/
structure IsKeyword (word : List Char) : Prop where
  nonempty : word ≠ []
  solid : ∀ c ∈ word, isBlank c = false
  noComment : word.head? ≠ some '#'

instance : DecidablePred IsKeyword := fun word =>
  decidable_of_iff (word ≠ [] ∧ word.all (fun c => !isBlank c) = true ∧ word.head? ≠ some '#') <| by
    simp only [List.all_eq_true, Bool.not_eq_eq_eq_not, Bool.not_true]
    exact ⟨fun ⟨nonempty, solid, noComment⟩ => ⟨nonempty, solid, noComment⟩,
      fun proper => ⟨proper.nonempty, proper.solid, proper.noComment⟩⟩

section Spaced

variable {word : List Char} (proper : IsKeyword word) (rest : List Char)

include proper

/-- A keyword, a space and anything behind it are cut at the space, whether or not blanks are all
that is behind it. -/
theorem splitCommand_trim_spaced :
    splitCommand (trim (word ++ ' ' :: rest)) = (word, trim rest) := by
  obtain ⟨front, back, blankFront, blankBack, split⟩ := exists_trim rest
  have tight := isTight_of_solid proper.solid
  unfold splitCommand
  by_cases empty : trim rest = []
  · -- The space is trimmed away with the blanks behind it.
    rw [empty, List.append_nil] at split
    have space : AllBlank [' '] := allBlank_singleton (by decide)
    have blank : AllBlank (' ' :: rest) := split ▸ space.append (blankFront.append blankBack)
    rw [trim_append_right blank, trim_of_isTight tight, splitFirst?_eq_none_iff.mpr proper.solid,
      empty]
  · have core := tight.append (isTight_trim rest) proper.nonempty empty (' ' :: front)
    have trimmed : trim (word ++ ' ' :: rest) = word ++ ' ' :: (front ++ trim rest) := by
      have whole := trim_surrounded allBlank_nil blankBack core
      conv_lhs => rw [split]
      simpa only [List.nil_append, List.append_assoc, List.cons_append] using whole
    have cut : splitFirst? isBlank (word ++ ' ' :: (front ++ trim rest)) =
        some (word, front ++ trim rest) :=
      splitFirst?_eq_some_iff.mpr ⟨proper.solid, ' ', by decide, rfl⟩
    rw [trimmed, cut]
    dsimp only
    rw [trim_append_left blankFront, trim_trim]

theorem keyword_spaced : keyword (word ++ ' ' :: rest) = String.ofList word := by
  have cut := splitCommand_trim_spaced proper rest
  rw [splitCommand_eq, Prod.mk.injEq] at cut
  exact congrArg String.ofList cut.1

theorem argument_spaced : argument (word ++ ' ' :: rest) = trim rest := by
  have cut := splitCommand_trim_spaced proper rest
  rw [splitCommand_eq, Prod.mk.injEq] at cut
  exact cut.2

theorem not_isIdle_spaced : ¬ IsIdle (word ++ ' ' :: rest) := by
  have cut := splitCommand_trim_spaced proper rest
  rw [splitCommand_eq, Prod.mk.injEq] at cut
  rintro (empty | comment)
  · rw [empty] at cut
    exact proper.nonempty cut.1.symm
  · obtain ⟨tail, sign⟩ := List.head?_eq_some_iff.mp comment
    rw [sign, List.takeWhile_cons_of_pos (by decide)] at cut
    exact proper.noComment (by rw [← cut.1, List.head?_cons])

/-- A line that begins with a keyword is the command of that keyword with what follows it. -/
theorem parseLine_spaced_iff {line : String} (shape : line.toList = word ++ ' ' :: rest)
    {number : Nat} {operation : Operation} :
    parseLine number line = .ok (some operation) ↔
      parseCommand (String.ofList word) (trim rest) = .ok operation := by
  rw [parseLine_eq_ok_iff, parseText_eq_some_iff, ← parseCommand_eq_ok_iff, shape,
    keyword_spaced proper, argument_spaced proper]
  exact and_iff_right (not_isIdle_spaced proper rest)

end Spaced

variable {inner : List Char} {key : String}

theorem comma_mem_trim_iff (text : List Char) : ',' ∈ trim text ↔ ',' ∈ text := by
  refine ⟨mem_of_mem_trim, fun member => ?_⟩
  obtain ⟨front, back, blankFront, blankBack, split⟩ := exists_trim text
  rw [split] at member
  rcases List.mem_append.mp member with member | trailing
  · rcases List.mem_append.mp member with leading | member
    · exact absurd leading (comma_not_mem_of_allBlank blankFront)
    · exact member
  · exact absurd trailing (comma_not_mem_of_allBlank blankBack)

/-- A list without a comma names one key. -/
theorem spellsKeys_singleton_iff :
    SpellsKeys inner [key] ↔ ',' ∉ inner ∧ trim inner ≠ [] ∧ key = String.ofList (trim inner) := by
  constructor
  · intro listed
    generalize single : [key] = keys at listed
    cases listed with
    | last clear keyed => exact ⟨clear, keyed, (List.cons.inj single).1⟩
    | more _ _ later =>
      obtain ⟨-, none⟩ := List.cons.inj single
      cases none
      cases later
  · rintro ⟨clear, keyed, rfl⟩
    exact .last clear keyed

variable {rest : List Char} {keys : List String} {milliseconds : Nat}

theorem parseCommand_read_iff :
    parseCommand "READ" rest = .ok (.read keys) ↔ parseKeys rest = .ok keys := by
  rw [parseCommand_eq_ok_iff, parseKeys_eq_ok_iff]
  constructor
  · intro spelled
    generalize "READ" = word at spelled
    cases spelled with
    | read listed => exact ⟨_, rfl, listed⟩
  · rintro ⟨inner, rfl, listed⟩
    exact .read listed

theorem parseCommand_wait_iff :
    parseCommand "WAIT" rest = .ok (.wait milliseconds) ↔ parseDelay rest = .ok milliseconds := by
  rw [parseCommand_eq_ok_iff, parseDelay_eq_ok_iff]
  constructor
  · intro spelled
    generalize "WAIT" = word at spelled
    cases spelled with
    | wait number => exact number
  · exact .wait

end Job

namespace Shell

open WatchedStore.Job

section Readers

variable {key : String} {rest : List Char} {milliseconds : Nat}

/-- What a subscription takes as its key is what a job reads as a list of this one key. -/
theorem parseKey?_eq_some_iff : parseKey? rest = some key ↔ parseKeys rest = .ok [key] := by
  rw [parseKeys_eq_ok_iff]
  unfold parseKey?
  simp only [Option.bind_eq_some_iff, between?_eq_some_iff, spellsKeys_singleton_iff,
    Option.ite_none_left_eq_some, comma_mem_trim_iff, not_or, Option.some.injEq]
  constructor
  · rintro ⟨inner, framed, ⟨keyed, clear⟩, named⟩
    exact ⟨inner, framed, clear, keyed, named.symm⟩
  · rintro ⟨inner, framed, clear, keyed, named⟩
    exact ⟨inner, framed, ⟨keyed, clear⟩, named.symm⟩

theorem parseUnsigned?_eq_some_iff_parseDelay :
    parseUnsigned? wordBound rest = some milliseconds ↔ parseDelay rest = .ok milliseconds := by
  unfold parseDelay
  cases parseUnsigned? wordBound rest <;> simp

end Readers

/-- The shell goes by the keyword and the argument of a line, as the parser of job lines does. -/
theorem parseCommand?_spaced {word : List Char} (proper : IsKeyword word) {line : String}
    {rest : List Char} (shape : line.toList = word ++ ' ' :: rest) :
    parseCommand? line =
      let verb := String.ofList word
      if verb = "SUBSCRIBE" then (parseKey? (trim rest)).map .subscribe
      else if verb = "UNSUBSCRIBE" then (parseKey? (trim rest)).map .unsubscribe
      else if verb = "DELAY" then (parseUnsigned? wordBound (trim rest)).map .delay
      else if verb = "DISCONNECT" ∧ trim rest = [] then some .disconnect
      else none := by
  unfold parseCommand?
  rw [shape, splitCommand_trim_spaced proper]

/-- A command of the shell and a line of a job that are read alike: they make the same of one
argument, and the command is none wherever the line does not take one such argument. -/
structure ReadAlike {α : Type} (command : Option Command)
    (line : Except Error (Option Operation)) (asked : α → Command) (taken : α → Operation) :
    Prop where
  same : ∀ argument, command = some (asked argument) ↔ line = .ok (some (taken argument))
  invalid : (∀ argument, line ≠ .ok (some (taken argument))) → command = none

/-- It is enough that one reader of arguments accepts what the other one accepts. -/
theorem ReadAlike.of_readers {α : Type} {asked : α → Command} {taken : α → Operation}
    {read? : Option α} {line : Except Error (Option Operation)}
    (injective : Function.Injective asked)
    (agree : ∀ argument, read? = some argument ↔ line = .ok (some (taken argument))) :
    ReadAlike (read?.map asked) line asked taken where
  same argument := by
    rw [← agree, Option.map_eq_some_iff]
    constructor
    · rintro ⟨other, read, same⟩
      exact injective same ▸ read
    · exact fun read => ⟨argument, read, rfl⟩
  invalid unread := by
    have none : read? = none := Option.eq_none_iff_forall_ne_some.mpr
      fun argument read => unread argument ((agree argument).mp read)
    rw [none, Option.map_none]

/-- The shell and the jobs take the same arguments: behind its keyword a subscription, or the end of
one, takes the key that a job can read with a list of this one key, and a pause takes the delay that
a job can wait for. With every other argument the command is invalid. -/
theorem parseCommand?_readAlike (number : Nat) (rest : String) :
    ReadAlike (parseCommand? ("SUBSCRIBE " ++ rest)) (parseLine number ("READ " ++ rest))
      Command.subscribe (fun key => .read [key]) ∧
    ReadAlike (parseCommand? ("UNSUBSCRIBE " ++ rest)) (parseLine number ("READ " ++ rest))
      Command.unsubscribe (fun key => .read [key]) ∧
    ReadAlike (parseCommand? ("DELAY " ++ rest)) (parseLine number ("WAIT " ++ rest))
      Command.delay .wait := by
  have shape (word : String) : (word ++ rest).toList = word.toList ++ rest.toList :=
    String.toList_append
  have subscribing : parseCommand? ("SUBSCRIBE " ++ rest) =
      (parseKey? (trim rest.toList)).map .subscribe :=
    @parseCommand?_spaced "SUBSCRIBE".toList (by decide) _ _ (shape "SUBSCRIBE ")
  have unsubscribing : parseCommand? ("UNSUBSCRIBE " ++ rest) =
      (parseKey? (trim rest.toList)).map .unsubscribe :=
    @parseCommand?_spaced "UNSUBSCRIBE".toList (by decide) _ _ (shape "UNSUBSCRIBE ")
  have delaying : parseCommand? ("DELAY " ++ rest) =
      (parseUnsigned? wordBound (trim rest.toList)).map .delay :=
    @parseCommand?_spaced "DELAY".toList (by decide) _ _ (shape "DELAY ")
  have reads : ∀ key, parseKey? (trim rest.toList) = some key ↔
      parseLine number ("READ " ++ rest) = .ok (some (.read [key])) := by
    intro key
    rw [@parseLine_spaced_iff "READ".toList (by decide) _ _ (shape "READ "), parseKey?_eq_some_iff]
    exact parseCommand_read_iff.symm
  have waits : ∀ milliseconds, parseUnsigned? wordBound (trim rest.toList) = some milliseconds ↔
      parseLine number ("WAIT " ++ rest) = .ok (some (.wait milliseconds)) := by
    intro milliseconds
    rw [@parseLine_spaced_iff "WAIT".toList (by decide) _ _ (shape "WAIT "),
      parseUnsigned?_eq_some_iff_parseDelay]
    exact parseCommand_wait_iff.symm
  rw [subscribing, unsubscribing, delaying]
  exact ⟨.of_readers (fun _ _ => Command.subscribe.inj) reads,
    .of_readers (fun _ _ => Command.unsubscribe.inj) reads,
    .of_readers (fun _ _ => Command.delay.inj) waits⟩

end Shell

end WatchedStore
