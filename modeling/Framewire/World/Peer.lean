/-
**Plain peers, and waiting for what connectors do.**

Connectors talk to each other, and to peers that are none: plain sockets and plain listeners of the
same network.  What connectors do is seen from outside: how many connections they have, what their
sinks took, and which warnings were noted.

Main definitions:

* `World.reserve`, `World.silence` — endpoints at which nobody answers;
* `World.listen`, `World.accept`, `World.connect` — plain listeners and plain sockets;
* `World.readSocket`, `World.writeSocket` — what comes out of a plain socket, and what goes in;
* `World.size`, `World.messages`, `World.warnings` — what is seen of connectors;
* `World.waitSize`, `World.waitMessages`, `World.waitWarnings`, `World.waitRegistered` — waiting.
-/

import Framewire.Link
import Framewire.World

set_option autoImplicit false

namespace Framewire

namespace World

/-! ### Plain sockets and listeners -/

/-- An endpoint of the host at which nobody listens. -/
def reserve (w : World) : Endpoint × World :=
  let (port, network) := w.network.takePort
  (.ofIp port (.v4 .loopback), { w with network })

/-- An endpoint of the host at which dials neither succeed nor fail. -/
def silence (w : World) : Endpoint × World :=
  let (address, w) := w.reserve
  (address, { w with network := { w.network with silent := address :: w.network.silent } })

/-- A plain listener: its number, and the endpoint at which it listens. -/
def listen (w : World) : Except SystemError (Nat × Endpoint × World) := do
  let (listener, network) ← w.network.listen (.ofIp 0 (.v4 .loopback))
  return (listener, network.listenAddress listener, { w with network })

/-- Closes a plain listener. -/
def closeListener (w : World) (listener : Nat) : World :=
  { w with network := w.network.closeListener listener }

/-- A plain connection to an endpoint: the number of its socket, if it comes about. -/
def connect (w : World) (address : Endpoint) : Except SystemError (Option Nat × World) :=
  match w.network.dial address with
  | (.refused error, _) => .error error
  | (.hanging, network) => .ok (none, { w with network })
  | (.connected socket, network) => .ok (some socket, { w with network })

/-- Takes the next connection of a plain listener, for which it waits. -/
def accept (w : World) (listener : Nat) : Option (Nat × World) :=
  let w := w.wait fun w => (w.network.listener? listener).any fun l => !l.backlog.isEmpty
  (w.network.accept listener).map fun (socket, network) => (socket, { w with network })

/-- Reads so many bytes from a plain socket, or fewer where the connection ends before. -/
def readSocket (w : World) (socket count : Nat) : Bytes × World :=
  let w := w.wait fun w => (w.network.socket? socket).any fun s =>
    count ≤ s.arrived.length ∨ s.ending.isSome
  match w.network.read socket count with
  | (.bytes chunk, network) => (chunk, { w with network })
  | (_, network) => ([], { w with network })

/-- Writes pieces, one after the other, into a plain socket. -/
def writeSocket (w : World) (socket : Nat) (pieces : List Bytes) : World :=
  { w with network := pieces.foldl (fun n piece => (n.write socket piece).2) w.network }

/-- Changes the network under the connectors. -/
def onNetwork (w : World) (f : Network → Network) : World := { w with network := f w.network }

/-! ### What is seen of connectors -/

/-- The number of addresses to which a connector has a connection, or a slot. -/
def size (w : World) (id : Nat) : Nat := ((w.node? id).map (·.machine.size)).getD 0

/-- What the sink of a connector took, the first message first. -/
def messages (w : World) (id : Nat) : List Message :=
  ((w.node? id).map (·.received.reverse)).getD []

/-- The warnings and worse, the first one first. -/
def warnings (w : World) : List Notice := (w.notices.filter (·.isWarning)).reverse

/-- A running server that a dial to an endpoint reaches. -/
def serverAt? (w : World) (address : Endpoint) : Option Nat :=
  w.nodes.findIdx? fun n => match n.machine with
    | .server s =>
      s.isRunning ∧ s.localAddress.port = address.port ∧ s.localAddress.ip.covers address.ip
    | _ => false

/-! ### Waiting -/

/-- Waits until a connector has so many connections. -/
def waitSize (w : World) (id count : Nat) : World := w.wait fun w => w.size id = count

/-- Waits until the sink of a connector has taken so many messages. -/
def waitMessages (w : World) (id count : Nat) : World :=
  w.wait fun w => (w.node? id).any fun n => count ≤ n.received.length

/-- Waits until there are so many warnings. -/
def waitWarnings (w : World) (count : Nat) : World := w.wait fun w => count ≤ w.warnings.length

/-- Waits until the server at the other end of a plain socket has entered the connection into its
registry.  The result is false where there is no such server. -/
def waitRegistered (w : World) (socket : Nat) : Bool × World :=
  match w.network.socket? socket with
  | none => (false, w)
  | some s =>
    match w.serverAt? s.there with
    | none => (false, w)
    | some server =>
      (true, w.wait fun w => (w.node? server).any (·.machine.isConnected s.here))

end World

end Framewire
