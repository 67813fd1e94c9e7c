/-! # Texts as bytes

A text and its UTF-8 bytes. Decoding refuses every byte sequence that is not the encoding of a
text, so the two functions are inverse to each other wherever decoding succeeds.
-/

namespace WatchedStore

/-- A sequence of bytes. -/
abbrev Bytes := List UInt8

namespace Text

/-- The UTF-8 bytes of a text. -/
def encode (text : String) : Bytes := text.toByteArray.data.toList

/-- The text that has these UTF-8 bytes. -/
def decode? (bytes : Bytes) : Option String := String.fromUTF8? ⟨bytes.toArray⟩

@[simp] theorem decode?_encode (text : String) : decode? (encode text) = some text := by
  have same : (⟨(encode text).toArray⟩ : ByteArray) = text.toByteArray := by
    simp [encode]
  rw [decode?, same, String.fromUTF8?, dif_pos text.isValidUTF8]
  rfl

theorem decode?_eq_some_iff {bytes : Bytes} {text : String} :
    decode? bytes = some text ↔ bytes = encode text := by
  constructor
  · intro h
    unfold decode? String.fromUTF8? at h
    split at h
    · simp only [Option.some.injEq] at h
      simp [← h, encode, String.fromUTF8]
    · simp at h
  · rintro rfl
    exact decode?_encode text

end Text

end WatchedStore
