import WatchedStore.Executor
import WatchedStore.Proofs.Text.Encoding

/-! # Outputs in pieces

What an operation prints is handed over piece by piece: brackets, keys, commas and values, each by
itself, up to the first piece that is not taken whole. A writer takes the pieces as it takes the
text that they make up, so nothing depends on where the text is cut. An operation does its work
before the first piece is handed over, and after the last one it flushes the output at most.
-/

namespace WatchedStore

open WatchedStore.Text

namespace Writer

/-- Hands texts over one after the other, up to the first one that is not taken whole. -/
def putEach (writer : Writer) : List String → Except IoFailure Unit × Writer
  | [] => (.ok (), writer)
  | piece :: rest =>
    match writer.putText piece with
    | (.error failure, writer) => (.error failure, writer)
    | (.ok (), writer) => putEach writer rest

variable {writer : Writer}

@[simp] theorem put_nil (writer : Writer) : writer.put [] = (.ok (), writer) := by
  obtain ⟨_ | room, stalls, fails, written⟩ := writer <;> simp [put]

@[simp] theorem flushFails_put (writer : Writer) (bytes : Bytes) :
    (writer.put bytes).2.flushFails = writer.flushFails := by
  obtain ⟨_ | room, stalls, fails, written⟩ := writer <;> rfl

/-- A writer without a limit takes everything. -/
theorem put_of_endless (endless : writer.room = none) (bytes : Bytes) :
    writer.put bytes = (.ok (), { writer with written := writer.written ++ bytes }) := by
  unfold put
  rw [endless]

/-- What is left to do with the second of two texts depends on what became of the first. -/
theorem put_append (writer : Writer) (first second : Bytes) :
    writer.put (first ++ second) =
      match writer.put first with
      | (.error failure, writer) => (.error failure, writer)
      | (.ok (), writer) => writer.put second := by
  obtain ⟨_ | room, stalls, fails, written⟩ := writer
  · simp [put]
  · by_cases fits : first.length ≤ room
    · simp only [put, fits, ↓reduceIte, List.take_of_length_le, List.length_append, fullFailure,
        List.append_assoc, Nat.sub_sub, List.take_append]
      by_cases also : second.length ≤ room - first.length
      · have whole : first.length + second.length ≤ room := by omega
        simp only [also, whole, ↓reduceIte]
      · have beyond : ¬ first.length + second.length ≤ room := by omega
        simp only [also, beyond, ↓reduceIte]
    · have full : room - first.length = 0 := by omega
      have beyond : ¬ first.length + second.length ≤ room := by omega
      have spent : room - (first.length + second.length) = 0 := by omega
      simp only [put, fits, ↓reduceIte, List.length_append, beyond, List.take_append, full, spent,
        List.take_zero, List.append_nil, fullFailure]

/-- Pieces are taken like the text that they make up. -/
theorem putEach_eq (writer : Writer) (pieces : List String) :
    writer.putEach pieces = writer.putText (String.join pieces) := by
  induction pieces generalizing writer with
  | nil => exact (put_nil writer).symm
  | cons piece rest ih =>
    rw [putEach, String.join_cons, putText, putText, encode_append, put_append]
    rcases writer.put (encode piece) with ⟨_ | _, after⟩
    · rfl
    · exact ih after

/-- Where flushing does not fail, it changes nothing. -/
theorem putFlushed_eq (flushes : writer.flushFails = false) (bytes : Bytes) :
    writer.putFlushed bytes = writer.put bytes := by
  have flushed : (writer.put bytes).2.flush = .ok () := by
    rw [flush, flushFails_put, flushes]
    rfl
  unfold putFlushed
  generalize writer.put bytes = result at flushed ⊢
  obtain ⟨_ | _, after⟩ := result
  · rfl
  · exact congrArg (·, after) flushed

end Writer

namespace Report

/-- A pair inside a bracketed list, in pieces. -/
def itemPieces (key value : String) : List String := ["(", key, ",", value, ")"]

/-- A bracketed list, in pieces. -/
def listPieces (entries : List (String × String)) : List String :=
  ["["] ++ (entries.flatMap fun entry => itemPieces entry.1 entry.2) ++ ["]\n"]

/-- The keys that a deletion did not find, in pieces. -/
def missingPieces (keys : List String) : List String :=
  if keys = [] then [] else listPieces (keys.map fun key => (key, missingMarker))

/-- A line with one pair, in pieces. -/
def linePieces (key value : String) : List String := ["(", key, ", ", value, ")\n"]

theorem join_flatMap {α : Type} (items : List α) (pieces : α → List String) :
    String.join (items.flatMap pieces) =
      String.join (items.map fun item => String.join (pieces item)) := by
  induction items with
  | nil => rfl
  | cons item rest ih =>
    rw [List.flatMap_cons, String.join_append, ih, List.map_cons, String.join_cons]

theorem join_listPieces (entries : List (String × String)) :
    String.join (listPieces entries) =
      "[" ++ String.join (entries.map fun entry => item entry.1 entry.2) ++ "]\n" := by
  have each : ∀ entry : String × String,
      String.join (itemPieces entry.1 entry.2) = item entry.1 entry.2 := by
    intro entry
    simp [itemPieces, item, String.append_assoc]
  simp only [listPieces, String.join_append, join_flatMap, each, String.join_cons, String.join_nil,
    String.append_empty]

theorem reading_eq (results : List (String × Option String)) :
    reading results = String.join (listPieces (results.map fun result =>
      (result.1, result.2.getD readMarker))) := by
  rw [join_listPieces, List.map_map]
  rfl

theorem missing_eq (keys : List String) : missing keys = String.join (missingPieces keys) := by
  unfold missing missingPieces
  split
  · rfl
  · rw [join_listPieces, List.map_map]
    rfl

theorem listing_eq (pairs : List (String × String)) :
    listing pairs = String.join (pairs.flatMap fun pair => linePieces pair.1 pair.2) := by
  rw [join_flatMap]
  rfl

end Report

namespace Executor

/-- The pieces that an operation hands to the output of its job. -/
def pieces (executor : Executor) : Operation → List String
  | .write _ | .backup => []
  | .read keys =>
    Report.listPieces ((executor.hub.store.read (sortKeys keys)).map fun result =>
      (result.1, result.2.getD Report.readMarker))
  | .delete keys => Report.missingPieces (executor.hub.delete keys).answer
  | .print => executor.hub.store.snapshot.flatMap fun pair => Report.linePieces pair.1 pair.2
  | .wait milliseconds => if milliseconds = 0 then [] else ["Waiting...\n"]
  | .help => [helpText]

/-- The executor after an operation. -/
def perform (executor : Executor) (job : String) (operation : Operation) : Executor :=
  (executor.execute job operation .unlimited).executor

/-- The executor after operations. -/
def performAll (executor : Executor) (job : String) (operations : List Operation) : Executor :=
  operations.foldl (fun executor operation => executor.perform job operation) executor

/-- What an operation prints. -/
def prints (executor : Executor) (job : String) (operation : Operation) : Bytes :=
  (executor.execute job operation .unlimited).output.written

/-- What operations print one after the other. -/
def printsAll (executor : Executor) (job : String) : List Operation → Bytes
  | [] => []
  | operation :: rest =>
    executor.prints job operation ++ (executor.perform job operation).printsAll job rest

variable {output : Writer}

theorem emit_eq (executor : Executor) (output : Writer) (warnings : List Warning)
    (pieces : List String) :
    executor.emit output warnings (String.join pieces) =
      ⟨(output.putEach pieces).1.mapError .io, executor, (output.putEach pieces).2, warnings⟩ := by
  rw [Writer.putEach_eq]
  rfl

/-- An operation hands over its pieces, and that alone can fail; what it does to the executor and
what it logs do not depend on the output. -/
theorem execute_eq (executor : Executor) (job : String) (operation : Operation)
    (flushes : output.flushFails = false) :
    executor.execute job operation output =
      ⟨(output.putEach (executor.pieces operation)).1.mapError .io, executor.perform job operation,
        (output.putEach (executor.pieces operation)).2,
        (executor.execute job operation .unlimited).warnings⟩ := by
  cases operation with
  | write | backup => rfl
  | read keys => rw [pieces, perform, execute, execute, Report.reading_eq, emit_eq, emit_eq]
  | delete keys => rw [pieces, perform, execute, execute, Report.missing_eq, emit_eq, emit_eq]
  | print => rw [pieces, perform, execute, execute, Report.listing_eq, emit_eq, emit_eq]
  | help =>
    have whole : helpText = String.join [helpText] := by simp
    rw [pieces, perform, execute, execute, whole, emit_eq, emit_eq, ← whole]
  | wait milliseconds =>
    rw [pieces, perform, execute, execute]
    split
    · rfl
    · rw [Writer.putEach_eq, Writer.putFlushed_eq flushes, Writer.putFlushed_eq rfl]
      simp [Writer.putText]

/-- What an operation prints is made up of its pieces. -/
theorem prints_eq (executor : Executor) (job : String) (operation : Operation) :
    executor.prints job operation = encode (String.join (executor.pieces operation)) := by
  rw [prints, execute_eq executor job operation rfl, Writer.putEach_eq]
  rfl

/-- An operation hands over what it prints. -/
theorem execute_eq_put (executor : Executor) (job : String) (operation : Operation)
    (flushes : output.flushFails = false) :
    executor.execute job operation output =
      ⟨(output.put (executor.prints job operation)).1.mapError .io, executor.perform job operation,
        (output.put (executor.prints job operation)).2,
        (executor.execute job operation .unlimited).warnings⟩ := by
  rw [prints_eq]
  exact (execute_eq executor job operation flushes).trans (by rw [Writer.putEach_eq]; rfl)

end Executor

end WatchedStore
