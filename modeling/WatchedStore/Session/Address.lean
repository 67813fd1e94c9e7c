/-! # Socket addresses

The text of a socket address: four decimal numbers with dots, or a bracketed address of version 6
with an optional zone, and behind it a colon and the number of a service. The numbers of version 4
have at most three digits and no leading zero; services and zones may have any number of them. An
address of version 6 has eight groups of at most four hexadecimal digits. A double colon stands for
at least one group of zero, and the last two groups may be written as an address of version 4.
-/

namespace WatchedStore

/-- The machine part of a socket address. -/
inductive HostAddress
  /-- Four bytes. -/
  | v4 (a b c d : Nat)
  /-- Eight groups of two bytes, and a zone. -/
  | v6 (groups : List Nat) (zone : Nat)
deriving DecidableEq, Repr

/-- A machine and a service on it. -/
structure SocketAddress where
  host : HostAddress
  service : Nat
deriving DecidableEq, Repr

namespace SocketAddress

/-- The value of a digit in a radix of at most sixteen. -/
def digit? (radix : Nat) (c : Char) : Option Nat :=
  let value :=
    if '0' ≤ c ∧ c ≤ '9' then some (c.toNat - 48)
    else if 'a' ≤ c ∧ c ≤ 'f' then some (c.toNat - 87)
    else if 'A' ≤ c ∧ c ≤ 'F' then some (c.toNat - 55)
    else none
  value.filter fun v => v < radix

/-- Which numbers are accepted. -/
structure NumberForm where
  radix : Nat
  /-- The most digits; none when any number of them is. -/
  maxDigits : Option Nat
  leadingZeros : Bool
  /-- What the value has to stay below. -/
  bound : Nat

/-- One of the four numbers of an address of version 4. -/
def NumberForm.octet : NumberForm := ⟨10, some 3, false, 256⟩

/-- One of the groups of an address of version 6. -/
def NumberForm.group : NumberForm := ⟨16, some 4, true, 65536⟩

/-- The number of a service. -/
def NumberForm.service : NumberForm := ⟨10, none, true, 65536⟩

/-- A zone. -/
def NumberForm.zone : NumberForm := ⟨10, none, true, 4294967296⟩

/-- Reads all digits at the front of a text as one number. -/
def readNumber (form : NumberForm) (text : List Char) : Option (Nat × List Char) :=
  let digits := text.takeWhile fun c => (digit? form.radix c).isSome
  let value := digits.foldl (fun v c => v * form.radix + (digit? form.radix c).getD 0) 0
  let short : Bool := match form.maxDigits with
    | some most => decide (digits.length ≤ most)
    | none => true
  let plain : Bool := form.leadingZeros || digits.length ≤ 1 || digits.head? ≠ some '0'
  if digits ≠ [] ∧ short ∧ plain ∧ value < form.bound then
    some (value, text.drop digits.length)
  else none

/-- Reads one given character. -/
def readChar (wanted : Char) : List Char → Option (List Char)
  | [] => none
  | c :: rest => if c = wanted then some rest else none

/-- Reads the four numbers of an address of version 4. -/
def readV4 (text : List Char) : Option ((Nat × Nat × Nat × Nat) × List Char) := do
  let (a, text) ← readNumber .octet text
  let (b, text) ← readNumber .octet (← readChar '.' text)
  let (c, text) ← readNumber .octet (← readChar '.' text)
  let (d, text) ← readNumber .octet (← readChar '.' text)
  return ((a, b, c, d), text)

/-- What separates a group from the one before it. -/
def readSeparator (first : Bool) (text : List Char) : Option (List Char) :=
  if first then some text else readChar ':' text

/-- Reads at most `room` groups; the flag says whether they end in an address of version 4. -/
def readGroups : Nat → Bool → List Char → List Nat × Bool × List Char
  | 0, _, text => ([], false, text)
  | room + 1, first, text =>
    let embedded := if room = 0 then none else (readSeparator first text).bind readV4
    match embedded with
    | some ((a, b, c, d), rest) => ([a * 256 + b, c * 256 + d], true, rest)
    | none =>
      match (readSeparator first text).bind (readNumber .group) with
      | none => ([], false, text)
      | some (group, rest) =>
        let (groups, mapped, rest) := readGroups room false rest
        (group :: groups, mapped, rest)

/-- Reads the groups of an address of version 6. -/
def readV6 (text : List Char) : Option (List Nat × List Char) :=
  let (head, mapped, rest) := readGroups 8 true text
  if head.length = 8 then some (head, rest)
  else if mapped then none
  else
    ((readChar ':' rest).bind (readChar ':')).map fun rest =>
      let (tail, _, rest) := readGroups (7 - head.length) true rest
      (head ++ List.replicate (8 - head.length - tail.length) 0 ++ tail, rest)

/-- Reads the service behind a machine. -/
def readService (text : List Char) : Option (Nat × List Char) :=
  (readChar ':' text).bind (readNumber .service)

/-- Reads a zone, if there is one. -/
def readZone (text : List Char) : Nat × List Char :=
  ((readChar '%' text).bind (readNumber .zone)).getD (0, text)

/-- Reads an address of version 4 with its service. -/
def readSocketV4 (text : List Char) : Option (SocketAddress × List Char) := do
  let ((a, b, c, d), text) ← readV4 text
  let (service, text) ← readService text
  return (⟨.v4 a b c d, service⟩, text)

/-- Reads a bracketed address of version 6 with its service. -/
def readSocketV6 (text : List Char) : Option (SocketAddress × List Char) := do
  let (groups, text) ← readV6 (← readChar '[' text)
  let (zone, text) := readZone text
  let (service, text) ← readService (← readChar ']' text)
  return (⟨.v6 groups zone, service⟩, text)

/-- The address that a whole text spells. -/
def parse? (text : String) : Option SocketAddress :=
  match readSocketV4 text.toList <|> readSocketV6 text.toList with
  | some (address, []) => some address
  | _ => none

end SocketAddress

end WatchedStore
