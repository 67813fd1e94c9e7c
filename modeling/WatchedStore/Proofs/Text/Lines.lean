import WatchedStore.Proofs.Text.Encoding
import WatchedStore.Text.Line

/-! # The lines of joined streams and of texts

A stream that ends with a line feed leaves nothing open for what comes behind it, so the lines of two
such streams are those of the first and then those of the second. Line feeds and carriage returns are
bytes of their own characters only: cutting the bytes of a text into lines cuts no character, and every
line of a text is a text.
-/

namespace WatchedStore.Text

/-- Nothing is open at the end: no bytes at all, or a line feed as the last one. -/
def EndsLine (bytes : Bytes) : Prop := bytes = [] ∨ bytes.getLast? = some lineFeed

instance (bytes : Bytes) : Decidable (EndsLine bytes) :=
  inferInstanceAs (Decidable (bytes = [] ∨ bytes.getLast? = some lineFeed))

theorem EndsLine.tail {byte : UInt8} {rest : Bytes} (ended : EndsLine (byte :: rest)) :
    EndsLine rest := by
  rcases ended with empty | last
  · cases empty
  · cases rest with
    | nil => exact .inl rfl
    | cons next others => exact .inr (List.getLast?_cons_cons.symm.trans last)

/-- What follows the end of a line is cut by itself. -/
theorem lines_append {first : Bytes} (ended : EndsLine first) (second : Bytes) :
    lines (first ++ second) = lines first ++ lines second := by
  induction first with
  | nil => rfl
  | cons byte rest ih =>
    cases rest with
    | nil =>
      obtain rfl : byte = lineFeed := by simpa [EndsLine] using ended
      rw [lines_lineFeed, lines_nil, List.singleton_append, lines_lineFeed, List.singleton_append]
    | cons next others =>
      have open? : lines (next :: others) ≠ [] := mt lines_eq_nil_iff.mp (List.cons_ne_nil _ _)
      have head : (next :: others ++ second).head? = (next :: others).head? := rfl
      rw [List.cons_append, lines, lines, ih ended.tail, head]
      split
      · rfl
      · split
        · rfl
        · obtain ⟨line, later, shape⟩ := List.exists_cons_of_ne_nil open?
          rw [shape]
          rfl

/-- Bytes without the ends of lines are the beginning of the line that comes next. -/
theorem lines_append_of_clear {front : Bytes} (nonempty : front ≠ []) (noFeed : lineFeed ∉ front)
    (noReturn : carriageReturn ∉ front) (rest : Bytes) :
    lines (front ++ rest) = (front ++ (lines rest).headD []) :: (lines rest).tail := by
  induction front with
  | nil => exact absurd rfl nonempty
  | cons byte others ih =>
    obtain ⟨notFeed, noFeed⟩ := not_or.mp (List.mem_cons.not.mp noFeed)
    obtain ⟨notReturn, noReturn⟩ := not_or.mp (List.mem_cons.not.mp noReturn)
    rw [List.cons_append, lines, if_neg (Ne.symm notFeed), if_neg fun both => notReturn both.1.symm]
    by_cases last : others = []
    · subst last
      rw [List.nil_append]
      cases lines rest <;> rfl
    · rw [ih last noFeed noReturn]
      rfl

/-- One character, in front of lines that are texts. -/
private theorem text_of_mem_lines_cons {c : Char} {rest : Bytes}
    (texts : ∀ line ∈ lines rest, ∃ text : List Char, line = text.flatMap String.utf8EncodeChar) :
    ∀ line ∈ lines (String.utf8EncodeChar c ++ rest),
      ∃ text : List Char, line = text.flatMap String.utf8EncodeChar := by
  -- The first of the lines begins with the character; the others are lines of the rest.
  have glued : ∀ line ∈ (String.utf8EncodeChar c ++ (lines rest).headD []) :: (lines rest).tail,
      ∃ text : List Char, line = text.flatMap String.utf8EncodeChar := by
    intro line member
    cases shape : lines rest with
    | nil =>
      rw [shape] at member
      exact ⟨[c], by simpa using member⟩
    | cons first later =>
      rw [shape] at member texts
      rcases List.mem_cons.mp member with rfl | member
      · obtain ⟨text, rfl⟩ := texts first List.mem_cons_self
        exact ⟨c :: text, rfl⟩
      · exact texts line (List.mem_cons_of_mem first member)
  by_cases feed : c = '\n'
  · subst feed
    change ∀ line ∈ lines (lineFeed :: rest), _
    rw [lines_lineFeed]
    exact List.forall_mem_cons.mpr ⟨⟨[], rfl⟩, texts⟩
  · by_cases ret : c = '\r'
    · subst ret
      change ∀ line ∈ lines (carriageReturn :: rest), _
      rw [lines, if_neg (by decide)]
      split
      · exact texts
      · cases shape : lines rest with
        | nil | cons =>
          rw [shape] at glued
          exact glued
    · have absent : ∀ {byte : UInt8} {d : Char}, byte.toNat ≤ 127 → d.toNat = byte.toNat → c ≠ d →
          byte ∉ String.utf8EncodeChar c := by
        intro byte d ascii number apart member
        exact apart (Char.toNat_inj.mp
          (((mem_utf8EncodeChar_iff ascii).mp member).trans number.symm))
      have nonempty : String.utf8EncodeChar c ≠ [] := by
        rw [← List.length_pos_iff_ne_nil, String.length_utf8EncodeChar]
        exact Char.utf8Size_pos c
      rw [lines_append_of_clear nonempty (absent (by decide) (by rfl) feed)
        (absent (by decide) (by rfl) ret)]
      exact glued

/-- Every line of a text is a text. -/
theorem isSome_decode?_of_mem_lines {text : String} {line : Bytes}
    (member : line ∈ lines (encode text)) : (decode? line).isSome := by
  have texts : ∀ chars : List Char, ∀ line ∈ lines (chars.flatMap String.utf8EncodeChar),
      ∃ text : List Char, line = text.flatMap String.utf8EncodeChar := by
    intro chars
    induction chars with
    | nil => exact fun _ member => absurd member List.not_mem_nil
    | cons c rest ih => exact text_of_mem_lines_cons ih
  rw [encode_eq_flatMap] at member
  obtain ⟨chars, rfl⟩ := texts _ line member
  have shape := encode_eq_flatMap (String.ofList chars)
  rw [String.toList_ofList] at shape
  rw [← shape, decode?_encode]
  rfl

end WatchedStore.Text
