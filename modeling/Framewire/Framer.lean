/-
**Cutting a stream into messages.**

A framer belongs to one connection.  It keeps the bytes that have arrived and not yet made up a
complete frame, and hands out complete frames, whole, as messages from the connection's other end.
How the stream was cut into chunks on its way makes no difference to what comes out.

Main definitions:

* `Framer` — the state of a connection's incoming side;
* `Framer.next` — the next message, if a complete frame is at the front of the buffer;
* `Framer.drain` — all messages that are there;
* `Framer.decode` — adds a chunk and drains.

Main results:

* `Framer.frameLength?_eq` — how long the next message is, in terms of `Frame.completeLength?`;
* `Frame.announcedLength?_take` — a header shows in the first five bytes.
-/

import Framewire.Buffer
import Framewire.Frame

set_option autoImplicit false

namespace Framewire

/-! ### Headers -/

namespace Frame

theorem extendedLengthBytes_le (form : UInt8) : extendedLengthBytes form ≤ 4 := by
  unfold extendedLengthBytes
  repeat' split
  all_goals omega

/-- The announced length can be read off the first five bytes. -/
theorem announcedLength?_take (bytes : Bytes) :
    announcedLength? (bytes.take Buffer.headerSize) = announcedLength? bytes := by
  cases bytes with
  | nil => rfl
  | cons first rest =>
    have h := extendedLengthBytes_le (first >>> 4)
    simp only [Buffer.headerSize, List.take_succ_cons, announcedLength?, List.take_take,
      Nat.min_eq_left h]

theorem two_le_announcedLength? {bytes : Bytes} {length : Nat}
    (h : announcedLength? bytes = some length) : 2 ≤ length := by
  cases bytes with
  | nil => simp [announcedLength?] at h
  | cons first rest =>
    simp only [announcedLength?] at h
    split at h
    · simp only [Option.some.injEq] at h
      omega
    · simp at h

theorem lengthWithin?_eq_some_iff {head : Bytes} {size length : Nat} :
    lengthWithin? head size = some length ↔
      announcedLength? head = some length ∧ length ≤ size := by
  simp [lengthWithin?, Option.filter_eq_some_iff]

end Frame

/-! ### The framer -/

/-- The incoming side of a connection. -/
structure Framer where
  /-- the other end of the connection -/
  remote : Endpoint
  /-- what has arrived and not yet left as part of a message -/
  buffer : Buffer

namespace Framer

/-- The framer of a new connection. -/
def new (remote : Endpoint) : Framer := ⟨remote, Buffer.empty⟩

/-- The bytes that wait. -/
def buffered (f : Framer) : Bytes := f.buffer.toList

/-- The number of bytes that wait. -/
def bufferedLength (f : Framer) : Nat := f.buffer.size

/-- Adds a chunk without looking for messages. -/
def extend (f : Framer) (chunk : Bytes) : Framer :=
  { f with buffer := f.buffer.append chunk }

/-- Keeps only the first `n` of the bytes that wait. -/
def truncate (f : Framer) (n : Nat) : Framer :=
  { f with buffer := f.buffer.truncate n }

/-- The length of the complete frame at the front of the buffer, if there is one. -/
def frameLength? (f : Framer) : Option Nat :=
  Frame.lengthWithin? f.buffer.front f.buffer.size

theorem frameLength?_eq (f : Framer) : f.frameLength? = Frame.completeLength? f.buffered := by
  rw [frameLength?, Frame.completeLength?, Frame.lengthWithin?, Frame.lengthWithin?,
    ← Frame.announcedLength?_take, f.buffer.take_front, Frame.announcedLength?_take,
    f.buffer.size_eq_length]
  rfl

/-- Takes the next message; nothing changes if no frame is complete. -/
def next (f : Framer) : Option Message × Framer :=
  match f.frameLength? with
  | some length =>
    (some ⟨f.buffer.toList.take length, f.remote⟩, { f with buffer := f.buffer.drop length })
  | none => (none, f)

theorem frameLength?_bounds {f : Framer} {length : Nat} (h : f.frameLength? = some length) :
    2 ≤ length ∧ length ≤ f.buffer.size := by
  obtain ⟨announced, bound⟩ := Frame.lengthWithin?_eq_some_iff.mp h
  exact ⟨Frame.two_le_announcedLength? announced, bound⟩

theorem size_drop_lt {f : Framer} {length : Nat} (h : f.frameLength? = some length) :
    (f.buffer.drop length).size < f.buffer.size := by
  have := frameLength?_bounds h
  simp only [Buffer.drop]
  omega

/-- All messages that are there, in order, and the framer without them; `taken` holds the ones
already found, the last one first. -/
def drainOnto (taken : List Message) (f : Framer) : List Message × Framer :=
  match _h : f.frameLength? with
  | some length =>
    drainOnto (⟨f.buffer.toList.take length, f.remote⟩ :: taken)
      { f with buffer := f.buffer.drop length }
  | none => (taken.reverse, f)
termination_by f.buffer.size
decreasing_by exact size_drop_lt _h

/-- All messages that are there, in order, and the framer without them. -/
def drain (f : Framer) : List Message × Framer := drainOnto [] f

/-- Adds a chunk and takes all messages that are there then. -/
def decode (f : Framer) (chunk : Bytes) : List Message × Framer := (f.extend chunk).drain

/-- Decodes chunk after chunk: the messages of each, and the framer after the last one. -/
def feed (f : Framer) : List Bytes → List (List Message) × Framer
  | [] => ([], f)
  | chunk :: chunks =>
    let (messages, f) := f.decode chunk
    let (rest, f) := f.feed chunks
    (messages :: rest, f)

/-! ### What the operations do -/

@[simp] theorem buffered_new (remote : Endpoint) : (new remote).buffered = [] :=
  Buffer.toList_empty

@[simp] theorem buffered_extend (f : Framer) (chunk : Bytes) :
    (f.extend chunk).buffered = f.buffered ++ chunk :=
  Buffer.toList_append f.buffer chunk

@[simp] theorem buffered_truncate (f : Framer) (n : Nat) :
    (f.truncate n).buffered = f.buffered.take n :=
  Buffer.toList_truncate f.buffer n

@[simp] theorem remote_extend (f : Framer) (chunk : Bytes) :
    (f.extend chunk).remote = f.remote := rfl

@[simp] theorem remote_truncate (f : Framer) (n : Nat) : (f.truncate n).remote = f.remote := rfl

theorem bufferedLength_eq (f : Framer) : f.bufferedLength = f.buffered.length :=
  f.buffer.size_eq_length

end Framer

end Framewire
