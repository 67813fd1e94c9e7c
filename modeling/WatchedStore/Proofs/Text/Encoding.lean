import Mathlib.Data.List.Basic
import WatchedStore.Text.Utf8

/-! # The bytes of a text

A text is encoded character by character. An ASCII character is one byte with its own number and no
other character has a byte below 128, so a byte of that range stands in the encoding exactly where
its character stands in the text.
-/

namespace WatchedStore.Text

theorem encode_eq_flatMap (text : String) :
    encode text = text.toList.flatMap String.utf8EncodeChar := by
  unfold encode
  rw [← String.utf8Encode_toList, List.utf8Encode, List.toList_data_toByteArray]

@[simp] theorem encode_append (first second : String) :
    encode (first ++ second) = encode first ++ encode second := by
  simp only [encode_eq_flatMap, String.toList_append, List.flatMap_append]

theorem length_encode (text : String) : (encode text).length = text.utf8ByteSize := by
  unfold encode
  rw [Array.length_toList]
  rfl

theorem encode_injective {first second : String} (same : encode first = encode second) :
    first = second := by
  have decoded := congrArg decode? same
  rw [decode?_encode, decode?_encode] at decoded
  exact Option.some.inj decoded

/-- The bytes of a character in the ASCII range are those of its own number. -/
theorem mem_utf8EncodeChar_iff {c : Char} {byte : UInt8} (ascii : byte.toNat ≤ 127) :
    byte ∈ String.utf8EncodeChar c ↔ c.toNat = byte.toNat := by
  have number : ∀ n, byte = UInt8.ofNat n ↔ byte.toNat = n % 256 := by
    intro n
    rw [← UInt8.toNat_inj, UInt8.toNat_ofNat']
  have bound : c.val.toNat < 1114112 := by
    have := c.valid
    simp only [UInt32.isValidChar, Nat.isValidChar] at this
    omega
  unfold String.utf8EncodeChar Char.toNat
  dsimp only
  split
  · simp only [List.mem_singleton, number]
    omega
  · split
    · simp only [List.mem_cons, List.not_mem_nil, or_false, number]
      omega
    · split
      · simp only [List.mem_cons, List.not_mem_nil, or_false, number]
        omega
      · simp only [List.mem_cons, List.not_mem_nil, or_false, number]
        omega

/-- An ASCII byte stands in the encoding of a text exactly if its character stands in the text. -/
theorem mem_encode_iff {text : String} {byte : UInt8} (ascii : byte.toNat ≤ 127) :
    byte ∈ encode text ↔ ∃ c ∈ text.toList, c.toNat = byte.toNat := by
  simp only [encode_eq_flatMap, List.mem_flatMap, mem_utf8EncodeChar_iff ascii]

theorem zero_mem_encode_iff {text : String} : 0 ∈ encode text ↔ '\x00' ∈ text.toList := by
  rw [mem_encode_iff (Nat.zero_le _)]
  constructor
  · rintro ⟨c, member, zero⟩
    obtain rfl : c = '\x00' := Char.toNat_inj.mp zero
    exact member
  · exact fun member => ⟨_, member, rfl⟩

end WatchedStore.Text
