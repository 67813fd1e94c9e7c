import WatchedStore.ByteSource
import WatchedStore.Notice
import WatchedStore.Text.Split
import WatchedStore.Wire.Field
import WatchedStore.Writer

/-! # Notice frames

A notification travels as its text, filled up with NUL to 85 bytes; at least one NUL ends it. The
marker of a deletion is not told apart from a value that reads the same, so an update to that value
arrives as a deletion.
-/

namespace WatchedStore.Wire

open WatchedStore.Text

/-- The bytes of a notification frame: two fields, four characters between and around them, and a
NUL. -/
def noticeSize : Nat := 2 * fieldSize + 5

/-- The frame of a notification. -/
def encodeNotice (note : Notice) : Except Error Bytes :=
  let bytes := encode note.text
  if noticeSize ≤ bytes.length then .error (.protocol (.noticeTooLong bytes.length))
  else .ok (bytes ++ List.replicate (noticeSize - bytes.length) 0)

/-- What stands before and after the first comma with a space behind it. -/
def splitComma? : List Char → Option (List Char × List Char)
  | [] => none
  | ',' :: ' ' :: rest => some ([], rest)
  | c :: rest => (splitComma? rest).map fun (before, after) => (c :: before, after)

/-- The notification that a text spells. -/
def parseNotice? (text : List Char) : Option Notice :=
  (between? '(' ')' text).bind fun body =>
    (splitComma? body).map fun (key, value) =>
      let key := String.ofList key
      let value := String.ofList value
      if value = deletedMarker then .deleted key else .updated key value

/-- The notification of a frame. -/
def decodeNotice (frame : Bytes) : Except Error Notice := do
  let text ← decodeField frame
  match parseNotice? text.toList with
  | some note => return note
  | none => throw (.protocol (.malformedNotice text))

/-- Reads one notification; none at the end of the stream, also inside a frame. -/
def readNotice (source : ByteSource) : Except Error (Option Notice) × ByteSource :=
  match source.readExact noticeSize with
  | (.error failure, source) =>
    (if failure.kind = .unexpectedEnd then .ok none else .error (.io failure), source)
  | (.ok frame, source) => ((decodeNotice frame).map some, source)

/-- Writes a notification and flushes. -/
def writeNotice (writer : Writer) (note : Notice) : Except Error Unit × Writer :=
  match encodeNotice note with
  | .error error => (.error error, writer)
  | .ok frame =>
    let (result, writer) := writer.putFlushed frame
    (result.mapError .io, writer)

end WatchedStore.Wire
