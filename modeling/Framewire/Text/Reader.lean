/-
**Readers: grammars as functions.**

A reader takes a value from the front of a text and leaves the rest, or it fails and takes
nothing.  Readers are combined with `do`; `r <|> s` tries `s` on the same text where `r` fails.

Main definitions:

* `Reader` — the type;
* `Reader.char`, `Reader.literal`, `Reader.span`, `Reader.peek?` — the smallest readers;
* `Reader.whole` — the value of a text that a reader uses up.
-/

set_option autoImplicit false

namespace Framewire

/-- A reader takes a value from the front of a text and leaves the rest. -/
abbrev Reader (α : Type) := StateT (List Char) Option α

namespace Reader

/-- The next character, if there is one; nothing is taken. -/
def peek? : Reader (Option Char) := fun text => some (text.head?, text)

/-- The next character. -/
def next : Reader Char
  | c :: rest => some (c, rest)
  | [] => none

/-- One given character. -/
def char (expected : Char) : Reader Unit
  | c :: rest => if c = expected then some ((), rest) else none
  | [] => none

/-- One of the characters that satisfy a condition. -/
def satisfying (condition : Char → Bool) : Reader Char
  | c :: rest => if condition c then some (c, rest) else none
  | [] => none

/-- The given characters. -/
def literal : List Char → Reader Unit
  | [] => pure ()
  | c :: cs => do
    char c
    literal cs

/-- All characters at the front that satisfy a condition. -/
def span (condition : Char → Bool) : Reader (List Char) := fun text =>
  some (text.takeWhile condition, text.dropWhile condition)

/-- All characters at the front that satisfy a condition, and at least one. -/
def span1 (condition : Char → Bool) : Reader (List Char) := do
  let taken ← span condition
  if taken.isEmpty then failure else return taken

/-- What a reader takes, if it does not fail. -/
def optional {α : Type} (reader : Reader α) : Reader (Option α) :=
  (some <$> reader) <|> pure none

/-- Succeeds at the end of the text only. -/
def atEnd : Reader Unit
  | [] => some ((), [])
  | _ :: _ => none

/-- The value of a text that a reader uses up. -/
def whole {α : Type} (reader : Reader α) (text : List Char) : Option α :=
  match reader text with
  | some (value, []) => some value
  | _ => none

/-! ### Digits -/

/-- The value of a digit in the given base, at most sixteen. -/
def digitValue? (base : Nat) (c : Char) : Option Nat :=
  let value :=
    if '0' ≤ c ∧ c ≤ '9' then some (c.toNat - '0'.toNat)
    else if 'a' ≤ c ∧ c ≤ 'f' then some (c.toNat - 'a'.toNat + 10)
    else if 'A' ≤ c ∧ c ≤ 'F' then some (c.toNat - 'A'.toNat + 10)
    else none
  value.filter (· < base)

/-- Whether a character is a digit in the given base. -/
def isDigit (base : Nat) (c : Char) : Bool := (digitValue? base c).isSome

/-- The number that digits write in the given base. -/
def numeral (base : Nat) (digits : List Char) : Nat :=
  digits.foldl (fun value c => value * base + (digitValue? base c).getD 0) 0

/-- Exactly `count` digits in the given base, as a number. -/
def fixedNumeral (base count : Nat) : Reader Nat := fun text =>
  let digits := text.take count
  if digits.length = count ∧ digits.all (isDigit base) then
    some (numeral base digits, text.drop count)
  else
    none

end Reader

end Framewire
