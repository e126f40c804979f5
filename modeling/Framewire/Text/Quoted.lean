/-
**Quoted text.**

Text is quoted between double quotes on one line.  A backslash goes before quotes and backslashes;
NUL, tabulator, line feed and carriage return have a letter each; every other character that
cannot be shown is written as its code point in hexadecimal between braces.

Main definitions:

* `Text.escape` — the writing of one character;
* `Text.quoted` — the quoted text.
-/

import Framewire.Text.Unprintable

set_option autoImplicit false

namespace Framewire

namespace Text

/-- A character as its code point. -/
def codePoint (c : Char) : List Char :=
  ['\\', 'u', '\x7b'] ++ Nat.toDigits 16 c.toNat ++ ['\x7d']

/-- A character inside quoted text. -/
def escape (c : Char) : List Char :=
  if c = '"' ∨ c = '\\' then ['\\', c]
  else if c = '\x00' then ['\\', '0']
  else if c = '\t' then ['\\', 't']
  else if c = '\n' then ['\\', 'n']
  else if c = '\r' then ['\\', 'r']
  else if c.toNat < 0x20 ∨ c.toNat = 0x7F then codePoint c
  else if c.toNat < 0x7F then [c]
  else if isUnprintable c then codePoint c
  else [c]

/-- Text between double quotes. -/
def quoted (s : String) : String :=
  "\"" ++ String.ofList (s.toList.flatMap escape) ++ "\""

end Text

end Framewire
