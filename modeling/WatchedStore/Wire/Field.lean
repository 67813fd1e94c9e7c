import WatchedStore.Error
import WatchedStore.Text.Utf8

/-! # Text fields

A text on the wire takes a field of 40 bytes, filled up with NUL. Only texts of at most 40 bytes
without a NUL have a field. Reading stops at the first NUL and ignores the bytes behind it.
-/

namespace WatchedStore.Wire

open WatchedStore.Text

/-- The field of a text. -/
def encodeField (text : String) : Except Error Bytes :=
  let bytes := encode text
  if fieldSize < bytes.length then .error (.protocol (.fieldTooLong bytes.length))
  else if bytes.contains 0 then .error (.protocol .fieldHasNul)
  else .ok (bytes ++ List.replicate (fieldSize - bytes.length) 0)

/-- Puts the field of a text at the end of a buffer; a text that has no field leaves the buffer as
it was. -/
def appendField (buffer : Bytes) (text : String) : Except Error Unit × Bytes :=
  let bytes := encode text
  if fieldSize < bytes.length then (.error (.protocol (.fieldTooLong bytes.length)), buffer)
  else if bytes.contains 0 then (.error (.protocol .fieldHasNul), buffer)
  else
    let filled := buffer ++ bytes
    (.ok (), filled.rightpad (filled.length + fieldSize - bytes.length) 0)

/-- The text in front of the first NUL. -/
def decodeField (bytes : Bytes) : Except Error String :=
  match decode? (bytes.takeWhile (· ≠ 0)) with
  | some text => .ok text
  | none => .error (.protocol .fieldNotText)

/-- A text can be sent: it fits a field and holds no NUL. -/
def IsSendable (text : String) : Prop :=
  (encode text).length ≤ fieldSize ∧ 0 ∉ encode text

theorem encodeField_of_isSendable {text : String} (sendable : IsSendable text) :
    encodeField text =
      .ok (encode text ++ List.replicate (fieldSize - (encode text).length) 0) := by
  simp [encodeField, Nat.not_lt.2 sendable.1, sendable.2]

/-- What is put at the end of a buffer is the field. -/
theorem appendField_eq (buffer : Bytes) (text : String) :
    appendField buffer text =
      match encodeField text with
      | .ok field => (.ok (), buffer ++ field)
      | .error error => (.error error, buffer) := by
  unfold appendField encodeField
  dsimp only
  split
  · rfl
  · next fits =>
    split
    · rfl
    · have missing : (buffer ++ encode text).length + fieldSize - (encode text).length -
          (buffer ++ encode text).length = fieldSize - (encode text).length := by omega
      simp only [List.rightpad, missing, List.append_assoc]

theorem length_of_encodeField {text : String} {bytes : Bytes}
    (encoded : encodeField text = .ok bytes) : bytes.length = fieldSize := by
  unfold encodeField at encoded
  dsimp only at encoded
  split at encoded
  · cases encoded
  · next fits =>
    split at encoded
    · cases encoded
    · cases encoded
      simp only [List.length_append, List.length_replicate]
      omega

end WatchedStore.Wire
