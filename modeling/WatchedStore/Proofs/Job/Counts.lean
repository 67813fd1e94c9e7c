import WatchedStore.Proofs.Job.Cut
import WatchedStore.Proofs.Job.Parsing

/-! # What a script answers

On an output that never fails a script performs the operations that its lines spell, in order, and
counts each line once that is neither blank nor a comment. The bytes of a line need not be text,
though: the first line that is none ends the script with an error, and no line behind it is run.
-/

namespace WatchedStore

open WatchedStore.Text

namespace Job

instance : DecidablePred IsIdle := fun line =>
  inferInstanceAs (Decidable (trim line = [] ∨ (trim line).head? = some '#'))

/-- Whether the bytes of a line are text. -/
def isText (bytes : Bytes) : Bool := (decode? bytes).isSome

/-- Whether a line counts: it is neither blank nor a comment. -/
def isBusy (bytes : Bytes) : Bool :=
  match decode? bytes with
  | none => true
  | some line => ¬ IsIdle line.toList

/-- The operation that a line spells. -/
def spelled? (bytes : Bytes) : Option Operation :=
  match (decode? bytes).map fun line => parseText line.toList with
  | some (.ok operation) => operation
  | _ => none

/-- Whether a line counts and spells no operation. -/
def isFaulty (bytes : Bytes) : Bool := isBusy bytes && (spelled? bytes).isNone

variable {bytes : Bytes} {line : String} {operation : Operation}

/-- What a line is depends on what the parser says of its text. -/
theorem line_cases (number : Nat) (bytes : Bytes) :
    (decode? bytes = none ∧ isText bytes = false) ∨
    ∃ line, decode? bytes = some line ∧ isText bytes = true ∧
      ((parseLine number line = .ok none ∧ isBusy bytes = false ∧ spelled? bytes = none) ∨
        (∃ operation, parseLine number line = .ok (some operation) ∧ isBusy bytes = true ∧
          spelled? bytes = some operation) ∨
        ∃ error, parseLine number line = .error error ∧ isBusy bytes = true ∧
          spelled? bytes = none) := by
  cases text : decode? bytes with
  | none => exact .inl ⟨rfl, by rw [isText, text]; rfl⟩
  | some line =>
    refine .inr ⟨line, rfl, by rw [isText, text]; rfl, ?_⟩
    cases parsed : parseText line.toList with
    | error fault =>
      have busy : ¬ IsIdle line.toList := fun idle => by
        rw [parseText_eq_none_iff.mpr idle] at parsed
        cases parsed
      exact .inr (.inr ⟨.parse number fault, by simp [parseLine, parsed, Except.mapError],
        by simp [isBusy, text, busy], by simp [spelled?, text, parsed]⟩)
    | ok result =>
      have same := @parseLine_eq_ok_iff number line result
      cases result with
      | none =>
        have idle := parseText_eq_none_iff.mp parsed
        exact .inl ⟨same.mpr parsed, by simp [isBusy, text, idle], by simp [spelled?, text, parsed]⟩
      | some operation =>
        have busy := (parseText_eq_some_iff.mp parsed).1
        exact .inr (.inl ⟨operation, same.mpr parsed, by simp [isBusy, text, busy],
          by simp [spelled?, text, parsed]⟩)

/-- The operations of a script are those that its lines spell, up to the first one that is no
text. -/
theorem operations_eq (number : Nat) (script : List Bytes) :
    operations number script = (script.takeWhile isText).filterMap spelled? := by
  induction script generalizing number with
  | nil => rfl
  | cons bytes rest ih =>
    rcases line_cases number bytes with ⟨text, none⟩ | ⟨line, text, some,
      ⟨parsed, -, spelled⟩ | ⟨operation, parsed, -, spelled⟩ | ⟨error, parsed, -, spelled⟩⟩
    · simp only [operations, text, List.takeWhile_cons, none, Bool.false_eq_true, ↓reduceIte,
        List.filterMap_nil]
    · simp only [operations, text, parsed, List.takeWhile_cons, some, ↓reduceIte,
        List.filterMap_cons, spelled, ih]
    · simp only [operations, text, parsed, List.takeWhile_cons, some, ↓reduceIte,
        List.filterMap_cons, spelled, ih]
    · simp only [operations, text, parsed, List.takeWhile_cons, some, ↓reduceIte,
        List.filterMap_cons, spelled, ih]

/-- A line that counts either spells an operation or is faulty. -/
theorem length_filterMap_add_countP (script : List Bytes) :
    (script.filterMap spelled?).length + script.countP isFaulty = script.countP isBusy := by
  induction script with
  | nil => rfl
  | cons bytes rest ih =>
    have busy : (spelled? bytes).isSome = true → isBusy bytes = true := by
      rcases line_cases 1 bytes with ⟨text, -⟩ | ⟨line, text, -,
        ⟨-, -, spelled⟩ | ⟨operation, -, busy, -⟩ | ⟨error, -, busy, -⟩⟩
      · simp [isBusy, text]
      · simp [spelled]
      · exact fun _ => busy
      · exact fun _ => busy
    rw [List.filterMap_cons, List.countP_cons, List.countP_cons, ← ih]
    cases spelled : spelled? bytes with
    | none => simp only [isFaulty, spelled, Option.isNone_none, Bool.and_true, Nat.add_assoc]
    | some operation =>
      simp only [isFaulty, spelled, busy (by rw [spelled]; rfl), List.length_cons,
        Option.isNone_some, Bool.and_false, Bool.false_eq_true, ↓reduceIte, Nat.add_zero]
      exact Nat.add_right_comm ..

end Job

namespace Executor

variable {output : Writer} {job : String}

/-- The counts of the lines that are left are added to those so far. -/
theorem result_runLines (executor : Executor) (job : String) (number : Nat) (summary : Summary)
    (warnings : List Warning) (endless : output.room = none) (flushes : output.flushFails = false)
    (script : List Bytes) :
    (executor.runLines job number summary output warnings script).result =
      if script.all Job.isText then
        .ok ⟨summary.executed + (script.filterMap Job.spelled?).length,
          summary.failed + script.countP Job.isFaulty⟩
      else .error (.io .notText) := by
  induction script generalizing executor number summary warnings output with
  | nil =>
    simp only [runLines, finishScript, Writer.flush, flushes]
    rfl
  | cons bytes rest ih =>
    rcases Job.line_cases number bytes with ⟨text, none⟩ | ⟨line, text, some,
      ⟨parsed, busy, spelled⟩ | ⟨operation, parsed, busy, spelled⟩ | ⟨error, parsed, busy, spelled⟩⟩
    · simp only [runLines, text, List.all_cons, none, Bool.false_and, Bool.false_eq_true, ↓reduceIte]
    · have sound : Job.isFaulty bytes = false := by rw [Job.isFaulty, busy, Bool.false_and]
      simp only [runLines, text, parsed, List.all_cons, some, Bool.true_and, List.filterMap_cons,
        spelled, List.countP_cons, sound, Bool.false_eq_true, ↓reduceIte, Nat.add_zero]
      exact ih executor (number + 1) summary warnings endless flushes
    · have sound : Job.isFaulty bytes = false := by rw [Job.isFaulty, spelled]; simp
      have taken := Writer.put_of_endless endless (executor.prints job operation)
      simp only [runLines, text, parsed, execute_eq_put executor job operation flushes, taken,
        Except.mapError, List.all_cons, some, Bool.true_and, List.filterMap_cons, spelled,
        List.length_cons, List.countP_cons, sound, Bool.false_eq_true, ↓reduceIte, Nat.add_zero]
      rw [ih _ _ _ _ (by exact endless) (by exact flushes), Nat.add_right_comm, Nat.add_assoc]
    · have faulty : Job.isFaulty bytes = true := by rw [Job.isFaulty, busy, spelled]; rfl
      simp only [runLines, text, parsed, List.all_cons, some, Bool.true_and, List.filterMap_cons,
        spelled, List.countP_cons, faulty, ↓reduceIte]
      rw [ih _ _ _ _ endless flushes, Nat.add_right_comm, Nat.add_assoc]

/-- On an output that never fails a script performs the operations that its lines spell, in order, up
to the first line that is not text, and prints what they print. If there is no such line, it ends with
the number of these operations and with the number of lines that count and spell none, and together
these are all lines that are neither blank nor comments. If there is one, it ends with an error. -/
theorem runScript_counts (executor : Executor) (job : String) (script : Bytes) (stalls : Bool)
    (written : Bytes) :
    let run := executor.runScript job script ⟨none, stalls, false, written⟩
    let readable := (lines script).takeWhile Job.isText
    let operations := readable.filterMap Job.spelled?
    run.executor = executor.performAll job operations ∧
    run.output.written = written ++ executor.printsAll job operations ∧
    (readable = lines script →
      run.result = .ok ⟨operations.length, (lines script).countP Job.isFaulty⟩ ∧
      operations.length + (lines script).countP Job.isFaulty = (lines script).countP Job.isBusy) ∧
    (readable ≠ lines script → run.result = .error (.io .notText)) := by
  intro run readable operations
  obtain ⟨result, logged, same⟩ := executor.runLines_of_fits job 1 ⟨0, 0⟩ [] (lines script)
  have whole : run = _ := same ⟨none, stalls, false, written⟩ rfl rfl
  have counted : run.result = _ :=
    @result_runLines ⟨none, stalls, false, written⟩ executor job 1 ⟨0, 0⟩ [] rfl rfl (lines script)
  rw [Job.operations_eq] at whole
  have all : (lines script).all Job.isText = true ↔ readable = lines script := by
    rw [List.all_eq_true, ← List.takeWhile_eq_self_iff]
  refine ⟨by rw [whole], by rw [whole]; rfl, fun text => ⟨?_, ?_⟩, fun broken => ?_⟩
  · rw [counted, if_pos (all.mpr text), Nat.zero_add, Nat.zero_add]
    change _ = Except.ok (⟨(readable.filterMap Job.spelled?).length, _⟩ : Summary)
    rw [text]
  · change (readable.filterMap Job.spelled?).length + _ = _
    rw [text]
    exact Job.length_filterMap_add_countP (lines script)
  · rw [counted, if_neg fun text => broken (all.mp text)]

/-- A first line that is not text: the script ends with an error, and neither of the two lines behind it
is run, although the output takes everything. -/
theorem runScript_ends_at_undecodable_line :
    let executor : Executor :=
      ⟨.standard, Hub.empty 1, ⟨Path.ofText "./jobs", 2, 0, 0, [], []⟩, .file, FileTree.empty⟩
    let script := 0xFF :: lineFeed :: encode "WRITE [(k,v)]\nSHOW\n"
    let run := executor.runScript "a" script .unlimited
    (lines script).filterMap Job.spelled? = [.write [("k", "v")], .print] ∧
    (lines script).countP Job.isBusy = 3 ∧
    run.result = .error (.io .notText) ∧ run.executor.hub.store.snapshot = [] ∧
    run.output.written = [] := by
  decide +kernel

end Executor

end WatchedStore
