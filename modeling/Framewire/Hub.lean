/-
**What a running connector holds.**

While a connector runs it has connections, each with a handler, and one queue to its sink, which
all handlers share.  When it stops, its connections end; the queue keeps its consumer, which goes on
until the queue is empty, whatever the connector does then.

Main definitions:

* `Receiver` — a sink as it is given to a connector;
* `Attached`, `Hub` — a connection with its handler; all connections and the queue to the sink;
* `Hub.react`, `Hub.dispatch` — a handler reacts, or hands a message to the sink's queue;
* `Hub.setQueue`, `Hub.retire` — the queue after a delivery, and after a stop.
-/

import Framewire.Handler
import Framewire.Sink

set_option autoImplicit false

namespace Framewire

/-- A sink as it is given to a connector: what it does with messages, and whether it sends every
message that it takes back through the connector. -/
structure Receiver where
  sink : Sink := fun _ => none
  echoes : Bool := false

/-- A connection of a running connector. -/
structure Attached where
  /-- the number under which the connector knows the connection -/
  id : Nat
  /-- the number of the connection's socket -/
  socket : Nat
  handler : Handler

/-- The connections of a running connector, and the queue to its sink. -/
structure Hub where
  attached : List Attached := []
  queue : SinkQueue

namespace Hub

/-- The connection of a number. -/
def attached? (h : Hub) (id : Nat) : Option Attached := h.attached.find? fun a => a.id = id

/-- Adds a connection. -/
def attach (h : Hub) (id socket : Nat) (handler : Handler) : Hub :=
  { h with attached := h.attached ++ [⟨id, socket, handler⟩] }

/-- Removes a connection. -/
def detach (h : Hub) (id : Nat) : Hub :=
  { h with attached := h.attached.filter fun a => a.id ≠ id }

/-- Gives a connection another handler state. -/
def setHandler (h : Hub) (id : Nat) (handler : Handler) : Hub :=
  { h with attached := h.attached.map fun a => if a.id = id then { a with handler } else a }

/-- The handler of a connection reacts.  It goes when it ends. -/
def react (h : Hub) (id : Nat) (now : Nat) (stimulus : Stimulus) : Option (Reaction × Hub) :=
  (h.attached? id).map fun a =>
    let reaction := a.handler.react now stimulus
    match reaction.ended with
    | none => (reaction, h.setHandler id reaction.handler)
    | some _ => (reaction, h.detach id)

/-- A handler that looks at everything that may happen. -/
def selecting? (h : Hub) (id : Nat) : Option Attached :=
  (h.attached? id).filter fun a => a.handler.undelivered.isEmpty

/-- A handler hands its next undelivered message to the queue, if there is room. -/
def dispatch (h : Hub) (id : Nat) : Option Hub := do
  let a ← h.attached? id
  match a.handler.undelivered with
  | [] => none
  | message :: rest =>
    match h.queue.dispatch message with
    | .accepted queue =>
      some { h.setHandler id { a.handler with undelivered := rest } with queue }
    | _ => none

/-- The connections with another state of the queue. -/
def setQueue (h : Hub) (queue : SinkQueue) : Hub := { h with queue }

/-- The queue that is left when the connector stops: nobody adds to it. -/
def retire (h : Hub) : SinkQueue := { h.queue with dispatchers := 0 }

end Hub

end Framewire
