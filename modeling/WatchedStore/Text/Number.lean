/-! # Unsigned decimal numbers

The accepted form is an optional plus sign and at least one ASCII digit; leading zeros are allowed
and the value has to stay below a bound. Nothing else is a number: no minus sign, no
separators and no digits of other scripts.
-/

namespace WatchedStore.Text

/-- The value of a list of ASCII digits, most significant first. -/
def digitsValue (digits : List Char) : Nat :=
  digits.foldl (fun value digit => value * 10 + (digit.toNat - '0'.toNat)) 0

/-- The digits of a number: what stands after an optional plus sign. -/
def dropPlus : List Char → List Char
  | '+' :: digits => digits
  | digits => digits

/-- The first number that does not fit in 16 bits. -/
def shortBound : Nat := 65536

/-- The first number that does not fit in 64 bits. -/
def wordBound : Nat := 18446744073709551616

/-- Reads an unsigned number below a bound. -/
def parseUnsigned? (bound : Nat) (text : List Char) : Option Nat :=
  let digits := dropPlus text
  if digits ≠ [] ∧ digits.all Char.isDigit ∧ digitsValue digits < bound then
    some (digitsValue digits)
  else none

end WatchedStore.Text
