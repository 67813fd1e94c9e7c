import WatchedStore.Error
import WatchedStore.Text.Utf8

/-! # Writers

A writer collects bytes. It may have room for a limited number of them: then it takes as much of a
text as fits and fails for the rest, either with an error or by taking nothing more. Flushing may
fail by itself. Whatever happens, the bytes taken are the first ones of those handed over.
-/

namespace WatchedStore

open WatchedStore.Text

/-- A destination for output. -/
structure Writer where
  /-- How many more bytes it takes; none when it takes all. -/
  room : Option Nat
  /-- Whether a full writer takes nothing instead of failing. -/
  stallsWhenFull : Bool
  /-- Whether flushing fails. -/
  flushFails : Bool
  /-- The bytes taken so far. -/
  written : Bytes
deriving DecidableEq, Repr

namespace Writer

/-- A writer that takes everything. -/
def unlimited : Writer := ⟨none, false, false, []⟩

/-- A writer that takes `room` bytes and then fails. -/
def bounded (room : Nat) : Writer := ⟨some room, false, false, []⟩

/-- How a writer fails when it is full. -/
def fullFailure (writer : Writer) : IoFailure :=
  if writer.stallsWhenFull then .shortWrite else .stated .other "sink full"

/-- Hands bytes over. -/
def put (writer : Writer) (bytes : Bytes) : Except IoFailure Unit × Writer :=
  match writer.room with
  | none => (.ok (), { writer with written := writer.written ++ bytes })
  | some room =>
    let result := if bytes.length ≤ room then .ok () else .error writer.fullFailure
    (result,
      { writer with
        room := some (room - bytes.length), written := writer.written ++ bytes.take room })

/-- Hands a text over. -/
def putText (writer : Writer) (text : String) : Except IoFailure Unit × Writer :=
  writer.put (encode text)

/-- Asks the writer to pass on what it holds. -/
def flush (writer : Writer) : Except IoFailure Unit :=
  if writer.flushFails then .error (.stated .other "flush failed") else .ok ()

/-- Hands bytes over and flushes. -/
def putFlushed (writer : Writer) (bytes : Bytes) : Except IoFailure Unit × Writer :=
  match writer.put bytes with
  | (.error failure, writer) => (.error failure, writer)
  | (.ok (), writer) => (writer.flush, writer)

end Writer

end WatchedStore
