import WatchedStore.Text.Printable

/-! # Quoted texts

A text inside double quotes, written so that a reader sees every character of it: the quote and the
backslash are escaped, five common control characters have short names, and every other invisible
character is written as its code in braces.
-/

namespace WatchedStore.Text

/-- The code of a character in lower-case hexadecimal, in braces after `\u`. -/
def codeEscape (c : Char) : List Char :=
  ['\\', 'u', '\x7b'] ++ Nat.toDigits 16 c.toNat ++ ['\x7d']

/-- One character as it is written between quotes. -/
def quoteChar (c : Char) : List Char :=
  if c = '\x00' then ['\\', '0']
  else if c = '\t' then ['\\', 't']
  else if c = '\n' then ['\\', 'n']
  else if c = '\r' then ['\\', 'r']
  else if c = '"' then ['\\', '"']
  else if c = '\\' then ['\\', '\\']
  else if isVisible c then [c]
  else codeEscape c

/-- The text in double quotes. -/
def quote (text : String) : String :=
  String.ofList ('"' :: text.toList.flatMap quoteChar ++ ['"'])

end WatchedStore.Text
