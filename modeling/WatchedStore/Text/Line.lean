import WatchedStore.Text.Utf8

/-! # Lines of a byte stream

A line ends with a line feed, and a carriage return directly before that line feed belongs to the
ending. Bytes after the last line feed make up one more line, which keeps a trailing carriage
return; an empty remainder is no line.
-/

namespace WatchedStore.Text

/-- The byte that ends a line. -/
def lineFeed : UInt8 := 0x0A

/-- The byte that belongs to the ending when a line feed follows. -/
def carriageReturn : UInt8 := 0x0D

/-- The lines of a byte stream, without their endings. -/
def lines : Bytes → List Bytes
  | [] => []
  | byte :: rest =>
    if byte = lineFeed then [] :: lines rest
    else if byte = carriageReturn ∧ rest.head? = some lineFeed then lines rest
    else
      match lines rest with
      | [] => [[byte]]
      | line :: others => (byte :: line) :: others

@[simp] theorem lines_nil : lines [] = [] := rfl

@[simp] theorem lines_lineFeed (rest : Bytes) : lines (lineFeed :: rest) = [] :: lines rest := by
  simp [lines]

/-- Only an empty stream has no line. -/
theorem lines_eq_nil_iff {bytes : Bytes} : lines bytes = [] ↔ bytes = [] := by
  induction bytes with
  | nil => simp
  | cons byte rest ih =>
    simp only [lines, List.cons_ne_nil, iff_false]
    split
    · simp
    · split
      · next crlf =>
        rw [ih]
        rintro rfl
        simp at crlf
      · split <;> simp

end WatchedStore.Text
