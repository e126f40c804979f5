/-
**Directories: one value for each endpoint.**

A directory assigns a value to each of finitely many endpoints.  It is a list of entries in which
no endpoint occurs twice; in which order they stand is never observed.

Main definitions:

* `Directory` — the type; `get?`, `contains`, `insert`, `erase`, `size`.

Main results:

* `Directory.get?_insert`, `Directory.get?_erase`, `Directory.get?_empty` — looking up after an
  operation.
-/

import Framewire.Address.Endpoint

set_option autoImplicit false

namespace Framewire

/-- An assignment of values to finitely many endpoints. -/
structure Directory (α : Type) where
  entries : List (Endpoint × α)
  nodup : (entries.map Prod.fst).Nodup

namespace Directory

variable {α : Type}

/-- The directory without entries. -/
def empty : Directory α := ⟨[], List.nodup_nil⟩

instance : Inhabited (Directory α) := ⟨empty⟩

/-- The value of an endpoint, if it has one. -/
def get? (d : Directory α) (e : Endpoint) : Option α :=
  (d.entries.find? fun entry => entry.1 = e).map Prod.snd

/-- Whether an endpoint has a value. -/
def contains (d : Directory α) (e : Endpoint) : Bool := (d.get? e).isSome

/-- The number of endpoints that have a value. -/
def size (d : Directory α) : Nat := d.entries.length

/-- Whether no endpoint has a value. -/
def isEmpty (d : Directory α) : Bool := d.entries.isEmpty

/-- Takes away the value of an endpoint. -/
def erase (d : Directory α) (e : Endpoint) : Directory α where
  entries := d.entries.filter fun entry => entry.1 ≠ e
  nodup := d.nodup.sublist (List.filter_sublist.map Prod.fst)

/-- Gives an endpoint a value, in place of any that it had. -/
def insert (d : Directory α) (e : Endpoint) (a : α) : Directory α where
  entries := (e, a) :: (d.erase e).entries
  nodup := by
    refine List.nodup_cons.mpr ⟨?_, (d.erase e).nodup⟩
    simp [erase]

/-! ### Looking up -/

@[simp] theorem get?_empty (e : Endpoint) : (empty : Directory α).get? e = none := rfl

theorem get?_erase (d : Directory α) (e e' : Endpoint) :
    (d.erase e).get? e' = if e' = e then none else d.get? e' := by
  unfold get? erase
  simp only [List.find?_filter]
  split
  · next h =>
    subst h
    rw [List.find?_eq_none.mpr]
    · rfl
    · intro entry _
      simp
  · next h =>
    congr 2
    funext entry
    by_cases h' : entry.1 = e'
    · simp [h', h]
    · simp [h']

theorem get?_insert (d : Directory α) (e e' : Endpoint) (a : α) :
    (d.insert e a).get? e' = if e' = e then some a else d.get? e' := by
  by_cases h : e' = e
  · simp [get?, insert, h]
  · have h' : ¬ e = e' := fun h' => h h'.symm
    have := get?_erase d e e'
    simp only [h, if_false] at this
    simp only [h, if_false, ← this]
    simp [get?, insert, h']

theorem contains_iff (d : Directory α) (e : Endpoint) :
    d.contains e = true ↔ ∃ a, d.get? e = some a := by
  simp [contains, Option.isSome_iff_exists]

@[simp] theorem size_empty : (empty : Directory α).size = 0 := rfl

theorem isEmpty_iff (d : Directory α) : d.isEmpty = true ↔ d.size = 0 := by
  simp [isEmpty, size, List.isEmpty_iff]

end Directory

end Framewire
