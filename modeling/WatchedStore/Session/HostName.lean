import WatchedStore.Session.Address
import WatchedStore.Text.Number

/-! # Names of machines

What may stand for a machine in front of a service: an address, or a name that somebody else has to
be asked for.

An address of version 4 may be cut short here: one to four numbers with dots between them, each in
decimal, octal or hexadecimal, where the last one fills the bytes that the others leave. An address
of version 6 stands without brackets; behind a percent sign it may have the number of a zone or,
where the address belongs to a single link, the name of that link, perhaps with an alias of its own
behind a colon.

A name is made of labels with dots between them. A label has up to 63 letters, digits, dashes and
underscores, and the name does not begin with a dash. A backslash takes the next character as it
is, or stands with three digits for the character that has them as its code.
-/

namespace WatchedStore

open WatchedStore.Text

namespace HostAddress

/-- An address of a single link, which a zone has to name. -/
def isLinkLocal : HostAddress → Bool
  | v4 .. => false
  | v6 groups _ => groups.headD 0 / 64 = 0xFE80 / 64

/-- An address of version 6 that stands for a group of machines. -/
def isGroup : HostAddress → Bool
  | v4 .. => false
  | v6 groups _ => groups.headD 0 / 256 = 0xFF

/-- Whether the zone of an address may be the name of a link: the address is of a single link, or of
a group on a single machine or link. -/
def hasLink (host : HostAddress) : Bool :=
  host.isLinkLocal || host.isGroup &&
    match host with
    | v4 .. => false
    | v6 groups _ => groups.headD 0 % 16 = 1 || groups.headD 0 % 16 = 2

end HostAddress

namespace HostName

open SocketAddress

/-- A number of a shortened address of version 4, in the given radix. -/
def numberForm (radix : Nat) : NumberForm := ⟨radix, none, true, 4294967296⟩

/-- Reads a number in the radix that its start tells: sixteen behind `0x`, eight behind another
zero, and ten otherwise. -/
def readAnyNumber (text : List Char) : Option (Nat × List Char) :=
  match text with
  | '0' :: mark :: rest =>
    if (mark = 'x' ∨ mark = 'X') ∧ (rest.head?.bind (digit? 16)).isSome then
      readNumber (numberForm 16) rest
    else readNumber (numberForm 8) text
  | _ => readNumber (numberForm 10) text

/-- Reads a whole text as numbers with dots between them, at most as many as there is room for. -/
def readNumbers : Nat → List Char → Option (List Nat)
  | 0, _ => none
  | room + 1, text =>
    match readAnyNumber text with
    | some (number, []) => some [number]
    | some (number, '.' :: rest) => (readNumbers room rest).map (number :: ·)
    | _ => none

/-- Spreads a number over a number of bytes, the highest first; none if it does not fit. -/
def spread? : Nat → Nat → Option (List Nat)
  | 0, number => if number = 0 then some [] else none
  | count + 1, number => (spread? count (number / 256)).map (· ++ [number % 256])

/-- The bytes that numbers with dots between them stand for: one byte each, and the last number
fills the rest of the room. -/
def fill? : Nat → List Nat → Option (List Nat)
  | _, [] => none
  | room, [last] => spread? room last
  | room, number :: rest =>
    if number < 256 then (fill? (room - 1) rest).map (number :: ·) else none

/-- The address of version 4 that a text spells, perhaps cut short. -/
def shortened? (text : List Char) : Option HostAddress :=
  match (readNumbers 4 text).bind (fill? 4) with
  | some [a, b, c, d] => some (.v4 a b c d)
  | _ => none

/-- The most bytes of the name of a link, its alias included. -/
def maxLinkSize : Nat := 15

/-- The link that a text names. -/
def link? (links : List (String × Nat)) (text : List Char) : Option Nat :=
  if maxLinkSize < (String.ofList text).utf8ByteSize then none
  else links.lookup (String.ofList (text.takeWhile (· ≠ ':')))

/-- The address of version 6 that a text spells, with a zone if there is one. -/
def zoned? (links : List (String × Nat)) (text : List Char) : Option HostAddress :=
  let zone := text.dropWhile (· ≠ '%')
  match readV6 (text.takeWhile (· ≠ '%')) with
  | some (groups, []) =>
    match zone with
    | [] => some (.v6 groups 0)
    | _ :: zone =>
      let named := if (HostAddress.v6 groups 0).hasLink then link? links zone else none
      match named, readNumber .zone zone with
      | some link, _ => some (.v6 groups link)
      | none, some (number, []) => some (.v6 groups number)
      | _, _ => none
  | _ => none

/-- The address that a text spells, on a machine with the given links. -/
def address? (links : List (String × Nat)) (text : List Char) : Option HostAddress :=
  shortened? text <|> zoned? links text

/-- Puts a character in front of the first label. -/
def addToLabel (c : Char) : List (List Char) → List (List Char)
  | [] => [[c]]
  | label :: others => (c :: label) :: others

/-- The labels of a name; none if a backslash stands in front of nothing, or in front of digits that
are no code. -/
def labels? : List Char → Option (List (List Char))
  | [] => some [[]]
  | '.' :: rest => (labels? rest).map ([] :: ·)
  | '\\' :: first :: rest =>
    if first.isDigit then
      match rest with
      | second :: third :: rest =>
        let code := digitsValue [first, second, third]
        if second.isDigit ∧ third.isDigit ∧ code < 256 then
          (labels? rest).map (addToLabel (Char.ofNat code))
        else none
      | _ => none
    else (labels? rest).map (addToLabel first)
  | ['\\'] => none
  | c :: rest => (labels? rest).map (addToLabel c)

/-- The most characters of a label. -/
def maxLabelSize : Nat := 63

/-- The most characters of a name, where each label counts for one more, and so does the end. -/
def maxNameSize : Nat := 255

/-- Whether a label may hold the character. -/
def isLabelChar (c : Char) : Bool := c.isAlphanum || c = '-' || c = '_'

/-- Whether a label is neither empty nor too long, and holds what it may. -/
def isLabel (label : List Char) : Bool :=
  label ≠ [] && label.length ≤ maxLabelSize && label.all isLabelChar

/-- Whether a text can be the name of a machine: a lone dot, or labels, perhaps with a dot behind
the last one. -/
def isWellFormed (text : List Char) : Bool :=
  text = ['.'] ||
    match labels? text with
    | none => false
    | some labels =>
      let labels := if labels.getLast? = some [] then labels.dropLast else labels
      labels ≠ [] && labels.all isLabel && (labels.headD []).head? ≠ some '-' &&
        labels.flatten.length + labels.length + 1 ≤ maxNameSize

end HostName

end WatchedStore
