import WatchedStore.Key
import WatchedStore.Proofs.Text.Encoding
import WatchedStore.Wire.Notice
import WatchedStore.Wire.Request
import WatchedStore.Wire.Response

/-! # Frames that are read back

Every text that the store accepts fits a wire field, and a field is read back as its text. So are
requests and responses as what they were. A notification about accepted texts has a frame; it is
read back as itself, except that an update to the marker of deletions is read as a deletion.
-/

namespace WatchedStore.Wire

open WatchedStore.Text

instance (text : String) : Decidable (IsSendable text) :=
  inferInstanceAs (Decidable (_ ∧ _))

section Fields

variable {text : String}

/-- A text without NUL, filled up with NUL, is read back. -/
theorem decodeField_fill (clear : 0 ∉ encode text) (count : Nat) :
    decodeField (encode text ++ List.replicate count 0) = .ok text := by
  have front : (encode text ++ List.replicate count 0).takeWhile (· ≠ 0) = encode text := by
    rw [List.takeWhile_append_of_pos]
    · cases count <;> simp [List.replicate_succ]
    · intro byte member
      exact decide_eq_true fun zero => clear (zero ▸ member)
  rw [decodeField, front, decode?_encode]

/-- A text that cannot be sent breaks the wire format. -/
theorem encodeField_of_not_isSendable (unsendable : ¬ IsSendable text) :
    ∃ fault, encodeField text = .error (.protocol fault) := by
  unfold encodeField
  dsimp only
  split
  · exact ⟨_, rfl⟩
  · next fits =>
    split
    · exact ⟨_, rfl⟩
    · next clear => exact absurd ⟨Nat.le_of_not_lt fits, by simpa using clear⟩ unsendable

theorem length_encode_le (clean : textFault? text = none) : (encode text).length ≤ fieldSize := by
  rw [length_encode]
  unfold textFault? at clean
  split at clean
  · cases clean
  · split at clean
    · cases clean
    · next short => exact Nat.le_of_not_lt short

/-- An accepted text has none of the characters that its checks look for. -/
theorem plain_of_clean (clean : textFault? text = none) {c : Char} (member : c ∈ text.toList) :
    isControl c = false ∧ isReserved c = false := by
  unfold textFault? at clean
  split at clean
  · cases clean
  · split at clean
    · cases clean
    · split at clean
      · cases clean
      · next controlled =>
        split at clean
        · cases clean
        · next reserved =>
          refine ⟨Bool.eq_false_iff.mpr fun bad => ?_, Bool.eq_false_iff.mpr fun bad => ?_⟩
          · exact controlled (List.any_eq_true.mpr ⟨c, member, bad⟩)
          · exact reserved (List.any_eq_true.mpr ⟨c, member, bad⟩)

theorem zero_notMem_encode (clean : ∀ c ∈ text.toList, isControl c = false) : 0 ∉ encode text := by
  rw [zero_mem_encode_iff]
  exact fun member => absurd (clean _ member) (by decide)

/-- Every text that the store accepts can be sent. -/
theorem isSendable_of_clean (clean : textFault? text = none) : IsSendable text :=
  ⟨length_encode_le clean, zero_notMem_encode fun _ member => (plain_of_clean clean member).1⟩

end Fields

/-- Every response is read back. -/
theorem decodeResponse_encodeResponse (response : Response) :
    decodeResponse (encodeResponse response) = .ok response := by
  have opcode : decodeOpcode response.opcode.byte = .ok response.opcode := by
    rw [decodeOpcode, Opcode.ofByte?_byte]
  have status : decodeStatus response.status.byte = .ok response.status := by
    rw [decodeStatus, Status.ofByte?_byte]
  rw [decodeResponse, encodeResponse, List.headD_cons, List.tail_cons, List.headD_cons, opcode, status]
  rfl

/-- The requests about a key that can be sent have frames. -/
theorem encodeRequest_of_isSendable {key : String} (sendable : IsSendable key) :
    (∃ frame, encodeRequest (.subscribe key) = .ok frame) ∧
      ∃ frame, encodeRequest (.unsubscribe key) = .ok frame := by
  rw [encodeRequest, encodeRequest, encodeField_of_isSendable sendable]
  exact ⟨⟨_, rfl⟩, ⟨_, rfl⟩⟩

/-- What a frame of a request consists of. -/
theorem encodeRequest_eq_ok {request : Request} {frame : Bytes}
    (encoded : encodeRequest request = .ok frame) :
    ∃ payload, frame = request.opcode.byte :: payload ∧
      payload.length = request.opcode.payloadLength ∧
      decodeRequest request.opcode payload = .ok request := by
  have keyed : ∀ key payload, encodeField key = .ok payload →
      payload.length = fieldSize ∧ decodeField payload = .ok key := by
    intro key payload field
    have size := length_of_encodeField field
    by_cases sendable : IsSendable key
    · rw [encodeField_of_isSendable sendable] at field
      cases field
      exact ⟨size, decodeField_fill sendable.2 _⟩
    · obtain ⟨fault, refused⟩ := encodeField_of_not_isSendable sendable
      cases refused.symm.trans field
  cases request with
  | disconnect =>
    cases encoded
    exact ⟨[], rfl, rfl, rfl⟩
  | subscribe key | unsubscribe key =>
    cases field : encodeField key with
    | error error =>
      rw [encodeRequest, field] at encoded
      cases encoded
    | ok payload =>
      rw [encodeRequest, field] at encoded
      cases encoded
      obtain ⟨size, decoded⟩ := keyed key payload field
      refine ⟨payload, rfl, size, ?_⟩
      simp only [decodeRequest, Request.opcode, Opcode.payloadLength, size, decoded, ne_eq,
        not_true_eq_false, ↓reduceIte, Except.map]

end WatchedStore.Wire

namespace WatchedStore

open WatchedStore.Text WatchedStore.Wire

namespace Notice

/-- The store accepts the texts of a notification. -/
def IsPlain : Notice → Prop
  | updated key value => textFault? key = none ∧ textFault? value = none
  | deleted key => textFault? key = none

/-- The value that a notification is written with. -/
def shown : Notice → String
  | updated _ value => value
  | deleted _ => deletedMarker

/-- What a client reads: the marker in the place of the value counts as a deletion. -/
def asRead : Notice → Notice
  | updated key value => if value = deletedMarker then deleted key else updated key value
  | deleted key => deleted key

theorem text_eq (note : Notice) : note.text = "(" ++ note.key ++ ", " ++ note.shown ++ ")" := by
  cases note <;> rfl

theorem asRead_eq (note : Notice) :
    note.asRead =
      if note.shown = deletedMarker then deleted note.key else updated note.key note.shown := by
  cases note <;> rfl

/-- The text of a notification, character by character. -/
theorem toList_text (note : Notice) :
    note.text.toList = '(' :: (note.key.toList ++ ',' :: ' ' :: note.shown.toList) ++ [')'] := by
  rw [text_eq]
  simp only [String.toList_append]
  simp

variable {note : Notice}

theorem IsPlain.key (plain : note.IsPlain) : textFault? note.key = none := by
  cases note with
  | updated key value => exact plain.1
  | deleted key => exact plain

theorem IsPlain.shown (plain : note.IsPlain) : textFault? note.shown = none := by
  cases note with
  | updated key value => exact plain.2
  | deleted key =>
    have marker : textFault? deletedMarker = none := by decide +kernel
    exact marker

/-- The frame of a notification, and nothing for one that has none. -/
def frame (note : Notice) : Bytes := (encodeNotice note).toOption.getD []

end Notice

namespace Wire

open Notice

variable {note : Notice}

/-- The text of a notification has four characters beside those of the key and the value. -/
theorem length_encode_text_eq (note : Notice) :
    (encode note.text).length = (encode note.key).length + (encode note.shown).length + 4 := by
  have brackets : (encode "(").length = 1 ∧ (encode ", ").length = 2 ∧ (encode ")").length = 1 := by
    decide +kernel
  rw [text_eq]
  simp only [encode_append, List.length_append]
  omega

theorem length_encode_text (plain : note.IsPlain) : (encode note.text).length < noticeSize := by
  have key := length_encode_le plain.key
  have value := length_encode_le plain.shown
  rw [length_encode_text_eq, noticeSize]
  omega

/-- A notification of less than 85 bytes has a frame. -/
theorem encodeNotice_of_short (short : (encode note.text).length < noticeSize) :
    encodeNotice note =
      .ok (encode note.text ++ List.replicate (noticeSize - (encode note.text).length) 0) :=
  if_neg (Nat.not_le_of_lt short)

theorem frame_of_plain (plain : note.IsPlain) :
    note.frame = encode note.text ++ List.replicate (noticeSize - (encode note.text).length) 0 := by
  rw [frame, encodeNotice_of_short (length_encode_text plain)]
  rfl

/-- So has a notification about accepted texts. -/
theorem encodeNotice_of_plain (plain : note.IsPlain) : encodeNotice note = .ok note.frame := by
  rw [frame_of_plain plain, encodeNotice_of_short (length_encode_text plain)]

theorem length_frame (plain : note.IsPlain) : note.frame.length = noticeSize := by
  have short := length_encode_text plain
  rw [frame_of_plain plain, List.length_append, List.length_replicate]
  omega

/-- The first comma with a space behind it is the one behind the key. -/
theorem splitComma?_of_clear {before : List Char} (clear : ',' ∉ before) (after : List Char) :
    splitComma? (before ++ ',' :: ' ' :: after) = some (before, after) := by
  induction before with
  | nil => rfl
  | cons c rest ih =>
    obtain ⟨apart, clear⟩ := not_or.mp (mt List.mem_cons.mpr clear)
    rw [List.cons_append, splitComma?, ih clear]
    · rfl
    · exact fun _ same _ => apart same.symm

theorem parseNotice?_text (plain : note.IsPlain) :
    parseNotice? note.text.toList = some note.asRead := by
  have clear : ',' ∉ note.key.toList := by
    intro member
    exact absurd (plain_of_clean plain.key member).2 (by decide)
  rw [parseNotice?, between?_eq_some_iff.mpr note.toList_text, Option.bind_some, splitComma?_of_clear clear,
    asRead_eq]
  simp only [Option.map_some, String.ofList_toList]

/-- The frame of a notification about accepted texts is read back. -/
theorem decodeNotice_frame (plain : note.IsPlain) :
    decodeNotice note.frame = .ok note.asRead := by
  have clear : 0 ∉ encode note.text := by
    refine zero_notMem_encode fun c member => ?_
    rw [text_eq] at member
    simp only [String.toList_append, List.mem_append] at member
    obtain (((bracket | inKey) | comma) | inValue) | bracket := member
    · rw [List.mem_singleton.mp bracket]
      decide
    · exact (plain_of_clean plain.key inKey).1
    · rcases List.mem_pair.mp comma with rfl | rfl <;> decide
    · exact (plain_of_clean plain.shown inValue).1
    · rw [List.mem_singleton.mp bracket]
      decide
  rw [decodeNotice, frame_of_plain plain, decodeField_fill clear]
  simp only [bind, Except.bind, parseNotice?_text plain]
  rfl

end Wire

end WatchedStore
