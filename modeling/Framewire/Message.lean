/-
**Messages.**

A message is a payload together with the endpoint at the other end of the connection: where it
came from when it was received, where it is to go when it is sent.

Main definitions:

* `Bytes` — byte strings;
* `Message` — the type, `Message.size` its number of payload bytes.
-/

import Framewire.Address.Endpoint

set_option autoImplicit false

namespace Framewire

/-- A byte string. -/
abbrev Bytes := List UInt8

/-- A payload and the endpoint at the other end. -/
structure Message where
  payload : Bytes
  remote : Endpoint
deriving DecidableEq, Repr

namespace Message

/-- The number of payload bytes. -/
def size (m : Message) : Nat := m.payload.length

/-- Whether the payload has no bytes. -/
def isEmpty (m : Message) : Bool := m.payload.isEmpty

@[simp] theorem size_mk (payload : Bytes) (remote : Endpoint) :
    (Message.mk payload remote).size = payload.length := rfl

theorem isEmpty_iff (m : Message) : m.isEmpty = true ↔ m.size = 0 := by
  simp [isEmpty, size, List.isEmpty_iff]

end Message

end Framewire
