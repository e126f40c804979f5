/-
**The registry of a server's connections.**

Every accepted connection is enrolled under the next number and has an outbound queue, which the
registry fills and the connection's handler empties.  For each address the latest enrolment that
was not withdrawn is the *current* one: payloads for the address go to its queue.  An older
enrolment of the same address still empties its queue, but gets nothing more, and withdrawing it
changes nothing for the address.

A handler sees its queue as closed when it has taken everything out of it and its enrolment is not
current any more: nobody can add to it then.

Main definitions:

* `Enrolment` — a connection's address, its queue, and whether somebody still empties it;
* `Registry` — all enrolments, by number, and the current one of each address;
* `Registry.enrol`, `Registry.withdraw`, `Registry.hangUp`, `Registry.clear` — connections come
  and go;
* `Registry.send`, `Registry.receive` — payloads into queues and out of them.
-/

import Framewire.Directory
import Framewire.Notice

set_option autoImplicit false

namespace Framewire

/-- A connection as the registry knows it. -/
structure Enrolment where
  remote : Endpoint
  /-- the payloads that the handler has not taken, the oldest one first -/
  queue : List Bytes := []
  /-- whether a handler still takes payloads -/
  attended : Bool := true
deriving DecidableEq, Repr

/-- What a handler finds when it looks into its queue. -/
inductive Receipt where
  | payload (bytes : Bytes)
  | empty
  | closed
deriving DecidableEq, Repr

/-- All enrolments, each under its number, and the number of the current one of each address. -/
structure Registry where
  enrolments : List Enrolment := []
  current : Directory Nat := .empty

namespace Registry

instance : Inhabited Registry := ⟨{}⟩

/-- The enrolment of a number. -/
def enrolment? (r : Registry) (id : Nat) : Option Enrolment := r.enrolments[id]?

/-- Whether an enrolment is the current one of its address. -/
def isCurrent (r : Registry) (id : Nat) : Bool :=
  (r.enrolment? id).any fun enrolment => r.current.get? enrolment.remote = some id

/-- The number of addresses that have a current enrolment. -/
def size (r : Registry) : Nat := r.current.size

/-- Whether no address has a current enrolment. -/
def isEmpty (r : Registry) : Bool := r.current.isEmpty

/-- Whether an address has a current enrolment. -/
def contains (r : Registry) (remote : Endpoint) : Bool := r.current.contains remote

/-- The number that the next enrolment gets. -/
def nextId (r : Registry) : Nat := r.enrolments.length

/-- Enrols a connection under the next number, as the current one of its address. -/
def enrol (r : Registry) (remote : Endpoint) : List Notice × Registry :=
  ([.registered r.nextId remote],
    { enrolments := r.enrolments ++ [{ remote }]
      current := r.current.insert remote r.nextId })

/-- Changes one enrolment. -/
def modify (r : Registry) (id : Nat) (f : Enrolment → Enrolment) : Registry :=
  { r with enrolments := r.enrolments.modify id f }

/-- Queues a payload for an address: whether its current enrolment took it. -/
def send (r : Registry) (message : Message) : Bool × Registry :=
  match r.current.get? message.remote with
  | some id =>
    if (r.enrolment? id).any (·.attended) then
      (true, r.modify id fun e => { e with queue := e.queue ++ [message.payload] })
    else
      (false, r)
  | none => (false, r)

/-- Takes the next payload out of a queue. -/
def receive (r : Registry) (id : Nat) : Receipt × Registry :=
  match r.enrolment? id with
  | some enrolment =>
    match enrolment.queue with
    | payload :: queue => (.payload payload, r.modify id fun e => { e with queue })
    | [] => (if r.isCurrent id then .empty else .closed, r)
  | none => (.closed, r)

/-- Withdraws an enrolment; the address has none afterwards if it was the current one. -/
def withdraw (r : Registry) (id : Nat) : List Notice × Registry :=
  match r.enrolment? id with
  | some enrolment =>
    if r.current.get? enrolment.remote = some id then
      ([.deregistered id enrolment.remote], { r with current := r.current.erase enrolment.remote })
    else
      ([], r)
  | none => ([], r)

/-- From now on nobody takes payloads out of the queue of an enrolment. -/
def hangUp (r : Registry) (id : Nat) : Registry :=
  r.modify id fun e => { e with queue := [], attended := false }

/-- Leaves every address without a current enrolment. -/
def clear (r : Registry) : Registry := { r with current := .empty }

/-! ### Sizes -/

@[simp] theorem size_clear (r : Registry) : r.clear.size = 0 := rfl

@[simp] theorem contains_clear (r : Registry) (remote : Endpoint) :
    r.clear.contains remote = false := rfl

theorem isEmpty_iff (r : Registry) : r.isEmpty = true ↔ r.size = 0 :=
  r.current.isEmpty_iff

end Registry

end Framewire
