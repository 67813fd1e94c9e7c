import WatchedStore.Error
import WatchedStore.Text.Utf8

/-! # Byte sources

A finite stream of bytes and what a reader meets behind it: the end of the stream or a failure.
Reading a block of fixed size uses up what is there even when the block cannot be filled. A reader
of frames is used again and again until it finds nothing or fails.
-/

namespace WatchedStore

/-- The bytes still to be read, and the failure behind them; none stands for the end. -/
structure ByteSource where
  bytes : Bytes
  ending : Option IoFailure
deriving DecidableEq, Repr

namespace ByteSource

/-- A stream that just ends. -/
def ofBytes (bytes : Bytes) : ByteSource := ⟨bytes, none⟩

/-- Reads exactly `size` bytes. -/
def readExact (source : ByteSource) (size : Nat) : Except IoFailure Bytes × ByteSource :=
  if size ≤ source.bytes.length then
    (.ok (source.bytes.take size), { source with bytes := source.bytes.drop size })
  else (.error (source.ending.getD .shortRead), { source with bytes := [] })

/-- How often a stream can be read when every read takes at least one byte. -/
def readBound (source : ByteSource) : Nat := source.bytes.length + 1

/-- Reads with one reader until it finds nothing, fails, or has been used `bound` times. -/
def readTimes {α : Type} (read : ByteSource → Except Error (Option α) × ByteSource)
    (source : ByteSource) : Nat → List α × Except Error Unit × ByteSource
  | 0 => ([], .ok (), source)
  | bound + 1 =>
    match read source with
    | (.error error, source) => ([], .error error, source)
    | (.ok none, source) => ([], .ok (), source)
    | (.ok (some item), source) =>
      let (items, ending, source) := readTimes read source bound
      (item :: items, ending, source)

/-- Everything that a reader finds in a stream, how that ends, and what is left. -/
def readAll {α : Type} (read : ByteSource → Except Error (Option α) × ByteSource)
    (source : ByteSource) : List α × Except Error Unit × ByteSource :=
  source.readTimes read source.readBound

theorem readExact_append (block rest : Bytes) (ending : Option IoFailure) :
    readExact ⟨block ++ rest, ending⟩ block.length = (.ok block, ⟨rest, ending⟩) := by
  simp [readExact]

end ByteSource

end WatchedStore
