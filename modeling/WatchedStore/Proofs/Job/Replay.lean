import WatchedStore.Proofs.Backup.Settling
import WatchedStore.Proofs.Job.Parsing
import WatchedStore.Proofs.Job.Scripts
import WatchedStore.Proofs.Store.Refill
import WatchedStore.Proofs.Wire.Frames

/-! # Printed stores that are read again

What showing the store prints is a list of pairs in the grammar of jobs: the parser has trimmed every
key and value that a script wrote, and the store has let none through that holds a bracket or a
comma. So the text in the brackets of one command is read as the very snapshot, and the command
fills an empty store with it. The newest backup holds the same text once every backup has ended,
where its file can be written at all.
-/

namespace WatchedStore

open WatchedStore.Text WatchedStore.Wire

/-- The store accepts the text, and trimming it changes nothing. -/
structure IsCanonical (text : String) : Prop where
  clean : textFault? text = none
  trimmed : trim text.toList = text.toList

section Listing

variable {pair : String × String} {pairs : List (String × String)}

theorem IsCanonical.trim_ne_nil {text : String} (canonical : IsCanonical text) :
    trim text.toList ≠ [] := by
  rw [canonical.trimmed]
  intro empty
  have clean := canonical.clean
  rw [textFault?, if_pos empty] at clean
  cases clean

/-- A line of a listing is a pair of the grammar and the end of the line. -/
theorem spellsPair_line (key : IsCanonical pair.1) (value : IsCanonical pair.2) :
    ∃ item, Job.SpellsPair item pair ∧ (Report.line pair.1 pair.2).toList = item ++ ['\n'] := by
  have kept : trim (' ' :: pair.2.toList) = pair.2.toList :=
    (trim_append_left (allBlank_singleton (by decide)) pair.2.toList).trans value.trimmed
  have plain : ∀ {text : String} {c : Char}, IsCanonical text → isReserved c = true →
      c ∉ text.toList := fun canonical reserved member =>
    absurd ((plain_of_clean canonical.clean member).2.symm.trans reserved) (by decide)
  have spelled := @Job.SpellsPair.intro pair.1.toList (' ' :: pair.2.toList)
    ⟨plain key (by decide), plain key (by decide)⟩
    (by simpa using plain value (by decide)) key.trim_ne_nil
    (by simpa only [kept, value.trimmed] using value.trim_ne_nil)
  rw [kept, key.trimmed, String.ofList_toList, String.ofList_toList] at spelled
  refine ⟨_, spelled, ?_⟩
  rw [Report.line]
  simp only [String.toList_append]
  simp

/-- A listing is a list of the grammar, with the ends of the lines for blanks. -/
theorem spellsPairs_listing (nonempty : pairs ≠ [])
    (canonical : ∀ pair ∈ pairs, IsCanonical pair.1 ∧ IsCanonical pair.2) :
    Job.SpellsPairs (Report.listing pairs).toList pairs := by
  have endBlank : AllBlank ['\n'] := allBlank_singleton (by decide)
  induction pairs with
  | nil => exact absurd rfl nonempty
  | cons pair rest ih =>
    obtain ⟨key, value⟩ := canonical pair List.mem_cons_self
    obtain ⟨item, spelled, line⟩ := spellsPair_line key value
    have split : (Report.listing (pair :: rest)).toList =
        item ++ ('\n' :: (Report.listing rest).toList) := by
      rw [Report.listing, List.map_cons, String.join_cons, String.toList_append, line,
        List.append_assoc]
      rfl
    rw [split]
    cases rest with
    | nil => exact .last allBlank_nil spelled endBlank
    | cons next others =>
      -- The end of this line counts as a blank in front of the next pair.
      have later := ih (List.cons_ne_nil _ _)
        fun pair member => canonical pair (List.mem_cons_of_mem _ member)
      have surrounded := later.surround endBlank allBlank_nil
      rw [List.append_nil] at surrounded
      exact .more allBlank_nil spelled surrounded

namespace Job

/-- A word and a text with solid ends behind one blank are the keyword and the argument. -/
theorem trim_command {word argument : List Char} (solid : ∀ c ∈ word, isBlank c = false)
    (nonempty : word ≠ []) (tight : IsTight argument) (present : argument ≠ []) :
    trim (word ++ ' ' :: argument) = word ++ ' ' :: argument ∧
      keyword (word ++ ' ' :: argument) = String.ofList word ∧
      Job.argument (word ++ ' ' :: argument) = argument := by
  have kept : trim (word ++ ' ' :: argument) = word ++ ' ' :: argument := by
    have whole := (isTight_of_solid solid).append tight nonempty present [' ']
    rw [List.append_assoc] at whole
    exact trim_of_isTight whole
  have passes : ∀ c ∈ word, (!isBlank c) = true := fun c member => by
    rw [solid c member]
    rfl
  have stops : isBlank ' ' = true := by decide
  refine ⟨kept, ?_, ?_⟩
  · rw [keyword, kept, List.takeWhile_append_of_pos passes,
      List.takeWhile_cons_of_neg (by simp [stops]), List.append_nil]
  · rw [Job.argument, kept, List.dropWhile_append_of_pos passes,
      List.dropWhile_cons_of_neg (by simp [stops])]
    exact (trim_append_left (allBlank_singleton stops) argument).trans (trim_of_isTight tight)

/-- A listing in the brackets of a command is read as the pairs listed. -/
theorem parseLine_listing (nonempty : pairs ≠ [])
    (canonical : ∀ pair ∈ pairs, IsCanonical pair.1 ∧ IsCanonical pair.2) (number : Nat) :
    parseLine number ("WRITE [" ++ Report.listing pairs ++ "]") = .ok (some (.write pairs)) := by
  have shape : ("WRITE [" ++ Report.listing pairs ++ "]").toList =
      ['W', 'R', 'I', 'T', 'E'] ++ ' ' :: ('[' :: (Report.listing pairs).toList ++ [']']) := by
    simp only [String.toList_append]
    simp
  have tight : IsTight ('[' :: (Report.listing pairs).toList ++ [']']) := by
    have left : IsTight ['['] := isTight_of_solid (List.forall_mem_singleton.mpr (by decide))
    have right : IsTight [']'] := isTight_of_solid (List.forall_mem_singleton.mpr (by decide))
    exact left.append right (List.cons_ne_nil _ _) (List.cons_ne_nil _ _)
      (Report.listing pairs).toList
  have solid : ∀ c ∈ ['W', 'R', 'I', 'T', 'E'], isBlank c = false := by
    intro c member
    simp only [List.mem_cons, List.not_mem_nil, or_false] at member
    rcases member with rfl | rfl | rfl | rfl | rfl <;> decide
  obtain ⟨kept, word, rest⟩ := trim_command solid (List.cons_ne_nil _ _) tight
    (List.cons_ne_nil _ _)
  rw [parseLine_eq_ok_iff, parseText_eq_some_iff, shape, word, rest]
  refine ⟨?_, .write (spellsPairs_listing nonempty canonical)⟩
  unfold IsIdle
  rw [kept]
  simp

/-- The pairs that a line writes are trimmed. -/
theorem trimmed_of_parseLine {number : Nat} {line : String}
    (parsed : parseLine number line = .ok (some (.write pairs))) (member : pair ∈ pairs) :
    trim pair.1.toList = pair.1.toList ∧ trim pair.2.toList = pair.2.toList := by
  obtain ⟨-, spelled⟩ := parseText_eq_some_iff.mp (parseLine_eq_ok_iff.mp parsed)
  generalize keyword line.toList = word, Job.argument line.toList = argument at spelled
  cases spelled with
  | write listed => exact listed.trimmed pair member

end Job

end Listing

namespace Executor

variable {executor : Executor}

/-- Showing prints the list of the store. -/
theorem execute_print (executor : Executor) (job : String) :
    (executor.execute job .print .unlimited).result = .ok () ∧
      (executor.execute job .print .unlimited).output.written =
        encode (Report.listing executor.hub.store.snapshot) :=
  ⟨rfl, rfl⟩

/-- A new executor has an empty store. -/
theorem of_start {settings : Settings} {writer : SnapshotWriter} {files : FileTree}
    (started : start settings writer files = .ok executor) :
    executor.hub = Hub.empty settings.subscriberLimit ∧ executor.writer = writer := by
  unfold start at started
  split at started
  · cases started
  · dsimp only at started
    split at started
    · cases started
    · split at started
      · cases started
      · cases started
        exact ⟨rfl, rfl⟩

/-- What operations that lines spell leave in an empty store is canonical. -/
theorem Leads.canonical {later : Executor} {limit : Nat} (leads : executor.Leads later)
    (empty : executor.hub = Hub.empty limit) :
    ∀ pair ∈ later.hub.store.snapshot, IsCanonical pair.1 ∧ IsCanonical pair.2 := by
  obtain ⟨operations, spelled, edited⟩ := leads.edited
  intro pair member
  rw [edited, empty] at member
  obtain ⟨pairs, called, good⟩ := Hub.mem_snapshot_after _ _ member
  obtain ⟨given, passed⟩ := mem_goodPairs_iff.mp good
  obtain ⟨cleanKey, cleanValue⟩ := textFaults_of_pairFault? passed
  obtain ⟨operation, listed, edits⟩ := List.mem_flatMap.mp called
  have writes : operation = .write pairs := by
    cases operation with
    | write others =>
      cases List.mem_singleton.mp edits
      rfl
    | delete keys => cases List.mem_singleton.mp edits
    | read | print | wait | backup | help => cases edits
  obtain ⟨number, line, parsed⟩ := spelled operation listed
  rw [writes] at parsed
  obtain ⟨trimmedKey, trimmedValue⟩ := Job.trimmed_of_parseLine parsed given
  exact ⟨⟨cleanKey, trimmedKey⟩, ⟨cleanValue, trimmedValue⟩⟩

/-- Whatever scripts leave in the store of a new instance, if they leave anything, can be read again
from what is shown then, and from a backup taken then. In the brackets of one command the text is
read as the pairs of the snapshot in their order, and in the store of any other new instance the
command has no pair refused, leaves the same snapshot, and so the same text to show. -/
theorem replay_of_shown {settings : Settings} {writer : SnapshotWriter} {files : FileTree}
    {fresh : Executor} (started : start settings writer files = .ok fresh)
    (scripts : List (String × Bytes × Writer))
    (nonempty : (fresh.afterScripts scripts).hub.store.snapshot ≠ []) :
    let after := fresh.afterScripts scripts
    let pairs := after.hub.store.snapshot
    let shown := Report.listing pairs
    (∀ job, (after.execute job .print .unlimited).result = .ok () ∧
      (after.execute job .print .unlimited).output.written = encode shown) ∧
    (∀ job, writer = .file →
      (∃ written, after.files.write (after.backup job).1.path [] = .ok written) →
      (after.backup job).2.settle.files.read (after.backup job).1.path = .ok (encode shown)) ∧
    (∀ number, Job.parseLine number ("WRITE [" ++ shown ++ "]") = .ok (some (.write pairs))) ∧
    ∀ settings writer files other, start settings writer files = .ok other → ∀ job output,
      let again := other.execute job (.write pairs) output
      again.result = .ok () ∧ (other.hub.write pairs).answer = [] ∧
        again.executor.hub.store.snapshot = pairs ∧
        (again.executor.execute job .print .unlimited).output.written = encode shown := by
  intro after pairs shown
  obtain ⟨empty, written⟩ := of_start started
  have leads : fresh.Leads after := leads_afterScripts fresh scripts
  refine ⟨fun job => execute_print after job, ?_, ?_, ?_⟩
  · intro job writes writable
    exact read_settle_backup job (leads.writer.trans (written.trans writes)) writable
  · exact Job.parseLine_listing nonempty (leads.canonical empty)
  · intro settings writer files other otherStarted job output again
    obtain ⟨operations, -, edited⟩ := leads.edited
    have source : pairs = ((Hub.empty _).after (operations.flatMap Operation.edits)).store.snapshot :=
      congrArg (fun hub : Hub => hub.store.snapshot) (empty ▸ edited)
    obtain ⟨accepted, same⟩ := Hub.refill _ (operations.flatMap Operation.edits)
      settings.subscriberLimit
    rw [← source, ← (of_start otherStarted).1] at accepted same
    have same : again.executor.hub.store.snapshot = pairs := same
    refine ⟨rfl, accepted, same, ?_⟩
    rw [(execute_print again.executor job).2, same]

/-- A script whose pairs stand in another order than their buckets, with one pair refused and a line
that is no command: what it leaves is shown, kept in a backup and read again. -/
theorem replay_of_shown_two_pairs :
    let fresh : Executor :=
      ⟨.standard, Hub.empty 100, ⟨Path.ofText "./jobs", 2, 0, 0, [], []⟩, .file,
        ⟨[([encode "jobs"], .directory)]⟩⟩
    let scripts : List (String × Bytes × Writer) :=
      [("a", encode "WRITE [(b, x y)( a ,1)(c,1,2)]\nWRITE [(d,1)\n", .unlimited)]
    let after := fresh.afterScripts scripts
    start .standard .file FileTree.empty = .ok fresh ∧
    after.hub.store.snapshot = [("a", "1"), ("b", "x y")] ∧
    (after.backup "a").2.settle.files.read (Path.ofText "./jobs/a-1.bck") =
      .ok (encode "(a, 1)\n(b, x y)\n") ∧
    Job.parseLine 1 "WRITE [(a, 1)\n(b, x y)\n]" =
      .ok (some (.write [("a", "1"), ("b", "x y")])) := by
  intro fresh scripts after
  have started : start .standard .file FileTree.empty = .ok fresh := by decide +kernel
  have left : after.hub.store.snapshot = [("a", "1"), ("b", "x y")] := by decide +kernel
  have shown : Report.listing after.hub.store.snapshot = "(a, 1)\n(b, x y)\n" := by
    rw [left]
    decide +kernel
  obtain ⟨-, kept, read, -⟩ := replay_of_shown started scripts (left ▸ List.cons_ne_nil _ _)
  have place : (after.backup "a").1.path = Path.ofText "./jobs/a-1.bck" := by decide +kernel
  have writable : ∃ written, after.files.write (after.backup "a").1.path [] = .ok written := by
    cases write : after.files.write (after.backup "a").1.path [] with
    | ok written => exact ⟨written, rfl⟩
    | error failure =>
      have fine : (after.files.write (after.backup "a").1.path []).toOption ≠ none := by
        decide +kernel
      exact absurd (write ▸ rfl) fine
  refine ⟨started, left, ?_, ?_⟩
  · have content := kept "a" rfl writable
    rw [shown, place] at content
    exact content
  · have line := read 1
    rw [shown, left] at line
    exact line

end Executor

end WatchedStore
