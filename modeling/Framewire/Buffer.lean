/-
**A byte queue.**

Bytes arrive at the back in chunks and leave at the front a frame at a time.  The queue holds the
front as a list and the back reversed, so that a chunk is added in time proportional to its own
length.  The first five bytes, the longest a frame's header can be, are always in the front part:
a header is read without touching the rest.

What a buffer means is its list of bytes, `Buffer.toList`; every operation is described by what it
does to that list, and nothing else about a buffer can be observed.

Main definitions:

* `Buffer` — the type, `Buffer.toList` the bytes it holds;
* `Buffer.append`, `Buffer.drop`, `Buffer.truncate` — more bytes at the back, fewer at the front,
  fewer at the back.

Main results:

* `Buffer.toList_append`, `Buffer.toList_drop`, `Buffer.toList_truncate` — the operations on lists;
* `Buffer.size_eq_length` — the recorded size is the number of bytes;
* `Buffer.take_front` — the front part shows the first five bytes.
-/

import Framewire.Message

set_option autoImplicit false

namespace Framewire

/-- The length of the longest header: the header byte and four bytes of extended length. -/
def Buffer.headerSize : Nat := 5

/-- A queue of bytes. -/
structure Buffer where
  /-- the bytes that leave first -/
  front : Bytes
  /-- the bytes behind them, the last one first -/
  back : Bytes
  /-- the number of bytes -/
  size : Nat
  size_eq : size = front.length + back.length := by simp
  header_in_front : back = [] ∨ Buffer.headerSize ≤ front.length := by simp

namespace Buffer

/-- The bytes of a buffer, in order. -/
def toList (b : Buffer) : Bytes :=
  if b.back.isEmpty then b.front else b.front ++ b.back.reverse

theorem toList_eq (b : Buffer) : b.toList = b.front ++ b.back.reverse := by
  unfold toList
  split <;> simp_all [List.isEmpty_iff]

/-- The buffer that holds the given bytes. -/
def ofList (bytes : Bytes) : Buffer where
  front := bytes
  back := []
  size := bytes.length

/-- The buffer without bytes. -/
def empty : Buffer := ofList []

instance : Inhabited Buffer := ⟨empty⟩

/-- Adds a chunk at the back. -/
def append (b : Buffer) (chunk : Bytes) : Buffer :=
  if h : headerSize ≤ b.front.length then
    { front := b.front
      back := chunk.reverseAux b.back
      size := b.size + chunk.length
      size_eq := by have := b.size_eq; simp [List.reverseAux_eq]; omega
      header_in_front := .inr h }
  else
    ofList (b.toList ++ chunk)

/-- Removes the first `n` bytes. -/
def drop (b : Buffer) (n : Nat) : Buffer where
  front := b.toList.drop n
  back := []
  size := b.size - n
  size_eq := by have := b.size_eq; simp [toList_eq]; omega

/-- Keeps the first `n` bytes. -/
def truncate (b : Buffer) (n : Nat) : Buffer :=
  ofList (b.toList.take n)

/-! ### What the operations do to the bytes -/

theorem size_eq_length (b : Buffer) : b.size = b.toList.length := by
  have := b.size_eq
  simp [toList_eq]
  omega

@[simp] theorem toList_ofList (bytes : Bytes) : (ofList bytes).toList = bytes := by
  simp [toList_eq, ofList]

@[simp] theorem toList_empty : empty.toList = [] := toList_ofList []

@[simp] theorem toList_append (b : Buffer) (chunk : Bytes) :
    (b.append chunk).toList = b.toList ++ chunk := by
  unfold append
  split
  · simp [toList_eq, List.reverseAux_eq]
  · simp

@[simp] theorem toList_drop (b : Buffer) (n : Nat) :
    (b.drop n).toList = b.toList.drop n := by
  simp [toList_eq, drop]

@[simp] theorem toList_truncate (b : Buffer) (n : Nat) :
    (b.truncate n).toList = b.toList.take n := toList_ofList _

/-- The front part shows as many of the first bytes as a header can have. -/
theorem take_front (b : Buffer) : b.front.take headerSize = b.toList.take headerSize := by
  rcases b.header_in_front with h | h
  · simp [toList_eq, h]
  · rw [toList_eq, List.take_append_of_le_length h]

end Buffer

end Framewire
