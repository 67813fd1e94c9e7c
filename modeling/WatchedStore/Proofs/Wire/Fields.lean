import Mathlib.Data.List.TakeWhile
import WatchedStore.Proofs.Wire.Frames

/-! # Fields with anything in them

Reading a field goes as far as its first NUL, so the bytes behind it are lost: what was read has the
field with these bytes cleared, and is read from it again. A field that its text fills up has no NUL.
-/

namespace WatchedStore.Wire

open WatchedStore.Text

/-- What it takes for one step after the other to end well. -/
theorem bind_eq_ok_iff {α β ε : Type} {first : Except ε α} {next : α → Except ε β}
    {result : β} : (first >>= next) = .ok result ↔ ∃ a, first = .ok a ∧ next a = .ok result := by
  cases first <;> simp [bind, Except.bind]

/-- The bytes with every one behind the first NUL set to NUL. -/
def cleared : Bytes → Bytes
  | [] => []
  | byte :: rest => byte :: if byte = 0 then List.replicate rest.length 0 else cleared rest

/-- The bytes in front of the first NUL. -/
def front (bytes : Bytes) : Bytes := bytes.takeWhile (· ≠ 0)

variable {bytes : Bytes} {text : String}

theorem zero_not_mem_front (bytes : Bytes) : 0 ∉ front bytes := fun member => by
  simpa using List.mem_takeWhile_imp member

theorem length_front_le (bytes : Bytes) : (front bytes).length ≤ bytes.length :=
  (List.takeWhile_sublist _).length_le

/-- What stands in front of the first NUL is kept and the rest is NUL. -/
theorem cleared_eq (bytes : Bytes) :
    cleared bytes = front bytes ++ List.replicate (bytes.length - (front bytes).length) 0 := by
  induction bytes with
  | nil => rfl
  | cons byte rest ih =>
    by_cases zero : byte = 0
    · rw [cleared, if_pos zero, front, List.takeWhile_cons_of_neg (by simp [zero]), zero]
      rfl
    · have kept : front (byte :: rest) = byte :: front rest :=
        List.takeWhile_cons_of_pos (by simpa using zero)
      rw [cleared, if_neg zero, ih, kept, List.length_cons, List.length_cons,
        Nat.add_sub_add_right, List.cons_append]

/-- Bytes without NUL are kept as they are. -/
theorem front_of_clear (clear : 0 ∉ bytes) : front bytes = bytes :=
  List.takeWhile_eq_self_iff.mpr fun _ member =>
    decide_eq_true fun zero => clear (zero ▸ member)

theorem length_front_lt (member : 0 ∈ bytes) : (front bytes).length < bytes.length := by
  refine Nat.lt_of_le_of_ne (length_front_le bytes) fun full => ?_
  have whole : front bytes = bytes := (List.takeWhile_prefix _).eq_of_length full
  exact zero_not_mem_front bytes (whole.symm ▸ member)

theorem front_fill (bytes : Bytes) (count : Nat) :
    front (bytes ++ List.replicate count 0) = front bytes := by
  induction bytes with
  | nil => cases count <;> simp [front, List.replicate_succ]
  | cons byte rest ih =>
    by_cases zero : byte = 0
    · simp [front, zero]
    · simpa [front, zero] using ih

theorem front_eq_self_iff : front bytes = bytes ↔ 0 ∉ bytes :=
  ⟨fun same => same ▸ zero_not_mem_front bytes, front_of_clear⟩

/-- A field is read as the text that has the bytes in front of its first NUL, if there is one. -/
theorem decodeField_eq_ok_iff : decodeField bytes = .ok text ↔ front bytes = encode text := by
  rw [← decode?_eq_some_iff, decodeField, front]
  cases decode? (bytes.takeWhile (· ≠ 0)) <;> simp

/-- A text can be sent if it has at most 40 bytes and no NUL. -/
theorem isSendable_iff : IsSendable text ↔ text.utf8ByteSize ≤ 40 ∧ '\x00' ∉ text.toList := by
  rw [IsSendable, length_encode, zero_mem_encode_iff]
  rfl

/-- Texts that can be sent, and no others, have fields. -/
theorem encodeField_eq_ok_iff {field : Bytes} :
    encodeField text = .ok field ↔
      IsSendable text ∧
        field = encode text ++ List.replicate (fieldSize - (encode text).length) 0 := by
  by_cases sendable : IsSendable text
  · rw [encodeField_of_isSendable sendable]
    simp [sendable, eq_comm]
  · obtain ⟨fault, refused⟩ := encodeField_of_not_isSendable sendable
    simp [refused, sendable]

theorem encodeField_isOk_iff : (∃ field, encodeField text = .ok field) ↔ IsSendable text := by
  simp only [encodeField_eq_ok_iff, exists_and_left, exists_eq, and_true]

/-- A field is read as the text it was made from. -/
theorem decodeField_of_encodeField {field : Bytes} (encoded : encodeField text = .ok field) :
    decodeField field = .ok text := by
  obtain ⟨sendable, rfl⟩ := encodeField_eq_ok_iff.mp encoded
  exact decodeField_fill sendable.2 _

/-- What was read from a field has that field again, cleared. -/
theorem encodeField_of_decodeField (size : bytes.length = fieldSize)
    (decoded : decodeField bytes = .ok text) : encodeField text = .ok (cleared bytes) := by
  have same := decodeField_eq_ok_iff.mp decoded
  refine encodeField_eq_ok_iff.mpr ⟨⟨?_, ?_⟩, ?_⟩
  · rw [← same, ← size]
    exact length_front_le bytes
  · rw [← same]
    exact zero_not_mem_front bytes
  · rw [cleared_eq, same, size]

/-- A text that can be sent adds 40 bytes to a buffer, and any other text leaves it as it was. -/
theorem appendField_cases (buffer : Bytes) (text : String) :
    (IsSendable text ∧ ∃ field, field.length = 40 ∧ encodeField text = .ok field ∧
        appendField buffer text = (.ok (), buffer ++ field)) ∨
      ¬ IsSendable text ∧ ∃ fault, encodeField text = .error (.protocol fault) ∧
        appendField buffer text = (.error (.protocol fault), buffer) := by
  rw [appendField_eq]
  by_cases sendable : IsSendable text
  · have encoded := encodeField_of_isSendable sendable
    exact .inl ⟨sendable, _, length_of_encodeField encoded, encoded, by rw [encoded]⟩
  · obtain ⟨fault, refused⟩ := encodeField_of_not_isSendable sendable
    exact .inr ⟨sendable, fault, refused, by rw [refused]⟩

end WatchedStore.Wire
