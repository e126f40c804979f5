/-
**Values of a configuration document.**

Whatever the format, a document is a tree of tables, lists and scalars.  Dates are kept as their
text.  A table is a list of entries; where a key occurs twice the later entry counts.

Main definitions:

* `Value` — the trees;
* `Entries.lookup?`, `Entries.set` — looking up a key of a table, and giving it a value.
-/

import Framewire.Decimal.Binary64

set_option autoImplicit false

namespace Framewire

/-- A value of a document. -/
inductive Value where
  | null
  | boolean (b : Bool)
  | integer (i : Int)
  | float (x : Binary64)
  | text (s : String)
  | list (elements : List Value)
  | table (entries : List (String × Value))
deriving Inhabited, Repr

/-- Whether an integer can be a value: one of 64 signed bits. -/
def Value.admits (i : Int) : Bool := -9223372036854775808 ≤ i ∧ i < 9223372036854775808

/-- The entries of a table, each a key with what stands under it. -/
abbrev Entries (α : Type) := List (String × α)

namespace Entries

variable {α : Type}

/-- What stands under a key. -/
def lookup? (entries : Entries α) (key : String) : Option α := List.lookup key entries

/-- Puts something under a key, in place of what stood there. -/
def set (key : String) (a : α) : Entries α → Entries α
  | [] => [(key, a)]
  | (k, b) :: rest => if k = key then (k, a) :: rest else (k, b) :: set key a rest

/-- Takes away what stands under a key. -/
def remove (key : String) (entries : Entries α) : Entries α :=
  entries.filter fun entry => entry.1 ≠ key

theorem lookup?_set (entries : Entries α) (key key' : String) (a : α) :
    lookup? (set key a entries) key' = if key' = key then some a else lookup? entries key' := by
  induction entries with
  | nil =>
    by_cases h : key' = key
    · simp [lookup?, set, h]
    · have : (key' == key) = false := by simpa using h
      simp [lookup?, set, List.lookup_cons, h, this]
  | cons entry rest ih =>
    obtain ⟨k, b⟩ := entry
    simp only [lookup?, set] at ih ⊢
    by_cases hk : k = key
    · subst hk
      simp only [if_true, List.lookup_cons]
      by_cases h : key' = k
      · simp [h]
      · have : (key' == k) = false := by simpa using h
        simp [h, this]
    · simp only [hk, if_false, List.lookup_cons]
      by_cases h : key' = k
      · subst h
        simp [hk]
      · have : (key' == k) = false := by simpa using h
        simp [this, ih]

end Entries

end Framewire
