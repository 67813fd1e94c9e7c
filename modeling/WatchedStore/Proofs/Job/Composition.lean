import Mathlib.Data.List.Basic
import WatchedStore.Proofs.Job.Counts
import WatchedStore.Proofs.Text.Lines

/-! # Scripts one after the other

On an output that never fails no operation fails, whatever pairs are refused and whatever keys are
missing, so a script of text ends with the number of its lines that are operations and with the number
of those that the parser refuses. Nothing of a run is left behind but the executor and what was
printed: neither the numbers of the lines nor the counts reach the operations. Two scripts therefore
do in one file what they do one after the other, if the first one ends its last line.
-/

namespace WatchedStore

open WatchedStore.Text

namespace Job

/-- What the parser says of the lines that are text, numbered from the given number on. -/
def verdictsFrom (number : Nat) (script : List Bytes) : List (Except Error (Option Operation)) :=
  ((script.filterMap decode?).zipIdx number).map fun line => parseLine line.2 line.1

/-- What the parser says of the lines of a script. -/
def verdicts (script : Bytes) : List (Except Error (Option Operation)) := verdictsFrom 1 (lines script)

/-- Whether a line is an operation. -/
def isOperation : Except Error (Option Operation) → Bool
  | .ok (some _) => true
  | _ => false

/-- Whether a line is refused. -/
def isRefusal : Except Error (Option Operation) → Bool
  | .error _ => true
  | .ok _ => false

/-- The operations and the refused lines among lines of text. -/
theorem countP_verdictsFrom (number : Nat) {script : List Bytes} (texts : script.all isText = true) :
    (verdictsFrom number script).countP isOperation = (script.filterMap spelled?).length ∧
      (verdictsFrom number script).countP isRefusal = script.countP isFaulty := by
  induction script generalizing number with
  | nil => exact ⟨rfl, rfl⟩
  | cons bytes rest ih =>
    rw [List.all_cons, Bool.and_eq_true] at texts
    obtain ⟨operations, refusals⟩ := ih (number + 1) texts.2
    rcases line_cases number bytes with ⟨-, none⟩ | ⟨line, text, -, verdict⟩
    · exact absurd (none.symm.trans texts.1) Bool.false_ne_true
    · have shape : verdictsFrom number (bytes :: rest) =
          parseLine number line :: verdictsFrom (number + 1) rest := by
        rw [verdictsFrom, List.filterMap_cons_some text, List.zipIdx_cons, List.map_cons, verdictsFrom]
      rw [shape, List.countP_cons, List.countP_cons, List.countP_cons, operations, refusals]
      rcases verdict with ⟨parsed, busy, spelled⟩ | ⟨operation, parsed, busy, spelled⟩ |
        ⟨error, parsed, busy, spelled⟩
      · simp [parsed, isOperation, isRefusal, isFaulty, busy, spelled]
      · simp [parsed, isOperation, isRefusal, isFaulty, spelled]
      · simp [parsed, isOperation, isRefusal, isFaulty, busy, spelled]

/-- Where every line is text, every line that spells an operation gives one. -/
theorem operations_of_all (number : Nat) {script : List Bytes} (texts : script.all isText = true) :
    operations number script = script.filterMap spelled? := by
  rw [operations_eq, List.takeWhile_eq_self_iff.mpr (List.all_eq_true.mp texts)]

theorem all_isText_of_mem_lines {script : Bytes} (text : (decode? script).isSome) :
    (lines script).all isText = true := by
  obtain ⟨whole, decoded⟩ := Option.isSome_iff_exists.mp text
  rw [decode?_eq_some_iff] at decoded
  subst decoded
  exact List.all_eq_true.mpr fun _ member => isSome_decode?_of_mem_lines member

end Job

namespace Executor

theorem performAll_append (executor : Executor) (job : String) (first second : List Operation) :
    executor.performAll job (first ++ second) = (executor.performAll job first).performAll job second :=
  List.foldl_append

theorem printsAll_append (executor : Executor) (job : String) (first second : List Operation) :
    executor.printsAll job (first ++ second) =
      executor.printsAll job first ++ (executor.performAll job first).printsAll job second := by
  induction first generalizing executor with
  | nil => rfl
  | cons operation rest ih =>
    rw [List.cons_append, printsAll, ih, printsAll, List.append_assoc]
    rfl

variable {output : Writer}

/-- What a script of text does on an output that never fails. -/
theorem runScript_of_text (executor : Executor) (job : String) {script : Bytes}
    (endless : output.room = none) (flushes : output.flushFails = false)
    (texts : (lines script).all Job.isText = true) :
    let operations := (lines script).filterMap Job.spelled?
    (executor.runScript job script output).result =
        .ok ⟨operations.length, (lines script).countP Job.isFaulty⟩ ∧
      (executor.runScript job script output).executor = executor.performAll job operations ∧
      (executor.runScript job script output).output =
        { output with written := output.written ++ executor.printsAll job operations } := by
  obtain ⟨result, logged, same⟩ := executor.runLines_of_fits job 1 ⟨0, 0⟩ [] (lines script)
  have run : executor.runScript job script output = _ :=
    same output flushes (by rw [Writer.put_of_endless endless])
  have counted : (executor.runScript job script output).result = _ :=
    result_runLines executor job 1 ⟨0, 0⟩ [] endless flushes (lines script)
  rw [Job.operations_of_all 1 texts, Writer.put_of_endless endless] at run
  refine ⟨?_, by rw [run], by rw [run]⟩
  rw [counted, if_pos texts, Nat.zero_add, Nat.zero_add]

/-- An operation fails only where its output does. -/
theorem execute_of_endless (executor : Executor) (job : String) (operation : Operation)
    (endless : output.room = none) (flushes : output.flushFails = false) :
    (executor.execute job operation output).result = .ok () := by
  rw [execute_eq_put executor job operation flushes, Writer.put_of_endless endless]
  rfl

/-- Scripts compose. On an output that never fails, for any executor and any name of the job:

A script of text that is empty or ends with a line feed, with a script of text behind it, does what the
two do one after the other. The executor with its store, its mailboxes and its backups is the same in
the end, the second script adds to the output what it prints on an empty one, and the counts add up.

A script of text, whose lines are all text then, ends with the number of its lines that are operations
and with the number of its lines that the parser refuses.

No operation fails. -/
theorem runScript_composes (executor : Executor) (job : String) (endless : output.room = none)
    (flushes : output.flushFails = false) :
    (∀ first second : Bytes, (decode? first).isSome → (decode? second).isSome → EndsLine first →
      let whole := executor.runScript job (first ++ second) output
      let front := executor.runScript job first output
      let onward := front.executor.runScript job second front.output
      let apart := front.executor.runScript job second { output with written := [] }
      whole.executor = onward.executor ∧ whole.output = onward.output ∧
      whole.executor = apart.executor ∧
      whole.output.written = front.output.written ++ apart.output.written ∧
      ∃ one other : Summary, front.result = .ok one ∧ onward.result = .ok other ∧
        apart.result = .ok other ∧
        whole.result = .ok ⟨one.executed + other.executed, one.failed + other.failed⟩) ∧
    (∀ script : Bytes, (decode? script).isSome →
      (∀ line ∈ lines script, (decode? line).isSome) ∧
      (executor.runScript job script output).result =
        .ok ⟨(Job.verdicts script).countP Job.isOperation,
          (Job.verdicts script).countP Job.isRefusal⟩) ∧
    ∀ operation, (executor.execute job operation output).result = .ok () := by
  refine ⟨fun first second firstText secondText ended => ?_, fun script text => ?_,
    fun operation => executor.execute_of_endless job operation endless flushes⟩
  · have firsts := Job.all_isText_of_mem_lines firstText
    have seconds := Job.all_isText_of_mem_lines secondText
    have cut := lines_append ended second
    have both : (lines (first ++ second)).all Job.isText = true := by
      rw [cut, List.all_append, firsts, seconds, Bool.and_self]
    intro whole front onward apart
    obtain ⟨wholeResult, wholeExecutor, wholeOutput⟩ :=
      executor.runScript_of_text job endless flushes both
    obtain ⟨frontResult, frontExecutor, frontOutput⟩ :=
      executor.runScript_of_text job endless flushes firsts
    have kept : front.output.room = none ∧ front.output.flushFails = false := by
      rw [frontOutput]
      exact ⟨endless, flushes⟩
    obtain ⟨onwardResult, onwardExecutor, onwardOutput⟩ :=
      front.executor.runScript_of_text job kept.1 kept.2 seconds
    obtain ⟨apartResult, apartExecutor, apartOutput⟩ :=
      @runScript_of_text { output with written := [] } front.executor job second endless flushes seconds
    rw [cut, List.filterMap_append] at wholeResult wholeExecutor wholeOutput
    rw [performAll_append, ← frontExecutor] at wholeExecutor
    rw [printsAll_append, ← frontExecutor] at wholeOutput
    refine ⟨wholeExecutor.trans onwardExecutor.symm, ?_, wholeExecutor.trans apartExecutor.symm, ?_,
      _, _, frontResult, onwardResult, apartResult, ?_⟩
    · rw [wholeOutput, onwardOutput, frontOutput, List.append_assoc]
    · rw [wholeOutput, frontOutput, apartOutput, List.nil_append, List.append_assoc]
    · rw [wholeResult, List.countP_append, List.length_append]
  · have texts := Job.all_isText_of_mem_lines text
    obtain ⟨operations, refusals⟩ := Job.countP_verdictsFrom 1 texts
    refine ⟨List.all_eq_true.mp texts, ?_⟩
    rw [Job.verdicts, operations, refusals]
    exact (executor.runScript_of_text job endless flushes texts).1

/-- Two scripts with both kinds of line endings, the second without one at its end. Each has a line that
the parser refuses; a pair is refused, a key is missing, and both scripts make a backup. -/
theorem runScript_composes_of_two_backups :
    let executor : Executor :=
      ⟨.standard, Hub.empty 1, ⟨Path.ofText "./jobs", 2, 0, 0, [], []⟩, .file, FileTree.empty⟩
    let first := encode "WRITE [(k,v)(-,x)]\r\nREAD\nBACKUP\n"
    let second := encode "DELETE [k,l]\n# both\r\nBACKUP\nSHOW now\nHELP me\nWRITE [(m,1)]\nSHOW"
    let whole := executor.runScript "a" (first ++ second) .unlimited
    let front := executor.runScript "a" first .unlimited
    let apart := front.executor.runScript "a" second .unlimited
    whole.executor = apart.executor ∧
    whole.output.written = front.output.written ++ apart.output.written ∧
    whole.output.written = encode "[(l,KVSMISSING)]\n(m, 1)\n" ∧
    front.result = .ok ⟨2, 1⟩ ∧ apart.result = .ok ⟨4, 2⟩ ∧ whole.result = .ok ⟨6, 3⟩ ∧
    (executor.execute "a" (.write [("-", "x")]) .unlimited).result = .ok () := by
  intro executor first second whole front apart
  obtain ⟨composes, counts, succeeds⟩ :=
    @runScript_composes .unlimited executor "a" rfl rfl
  obtain ⟨-, -, same, printed, -⟩ :=
    composes first second (by decide +kernel) (by decide +kernel) (by decide +kernel)
  exact ⟨same, printed, by decide +kernel, by decide +kernel, by decide +kernel,
    (counts (first ++ second) (by decide +kernel)).2.trans (by decide +kernel), succeeds _⟩

end Executor

end WatchedStore
