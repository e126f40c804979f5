/-
**One handler on one connection.**

A link is a connection between two sockets of a network, with a handler at one end and a peer at the
other.  The handler has its session, the queue to its sink, and a listener for the signal to shut
down; the peer writes and reads as it likes.  When the handler has ended, its socket is closed.

Main definitions:

* `Network.pair` — two connected sockets;
* `Link`, `Link.establish` — the link;
* `Link.act` — the next step of the handler or of the sink;
* `Link.wait`, `Link.finish` — waiting for something, and for the handler's end;
* `Link.peerRead` — what the peer reads;
* `Network.readAll` — what a connection without a handler reads.
-/

import Framewire.Network
import Framewire.Schedule
import Framewire.Shutdown
import Framewire.Sink

set_option autoImplicit false

namespace Framewire

namespace Network

/-- Two connected sockets: the accepted one and the dialing one. -/
def pair (n : Network) : Except SystemError (Nat × Nat × Network) := do
  let (listener, n) ← n.listen (.ofIp 0 (.v4 .loopback))
  match n.dial (n.listenAddress listener) with
  | (.connected dialing, n) =>
    match n.accept listener with
    | some (accepted, n) => return (accepted, dialing, n)
    | none => throw .connectionReset
  | (.refused error, _) => throw error
  | (.hanging, _) => throw .connectionRefused

/-- The other end of a socket's connection. -/
def remoteOf (n : Network) (socket : Nat) : Endpoint :=
  ((n.socket? socket).map (·.there)).getD .unbound

/-- Everything that has arrived at a socket. -/
def readAll (n : Network) (socket : Nat) : Bytes × Network :=
  let most := ((n.socket? socket).map (·.arrived.length)).getD 0
  match n.read socket most with
  | (.bytes chunk, n) => (chunk, n)
  | (_, n) => ([], n)

end Network

/-- A connection with a handler at one end. -/
structure Link where
  network : Network
  /-- the number of the handler's socket -/
  socket : Nat
  /-- the number of the peer's socket -/
  peer : Nat
  session : Session
  queue : SinkQueue
  shutdown : Shutdown

namespace Link

/-- The name of handlers in messages. -/
def name : String := "handler"

/-- A link on a host, the handler with an idle timeout, and room for so many messages in the queue to
its sink. -/
def establish (host : Host) (idleTimeout : Option Nat) (capacity : Nat) :
    Except SystemError (Except Fault Link) := do
  let (socket, peer, network) ← Network.pair { host }
  return (SinkQueue.start name capacity).map fun queue =>
    { network, socket, peer, queue
      session := .start (network.remoteOf socket) idleTimeout 0
      shutdown := ({ capacity := 1 } : Shutdown).subscribe }

/-! ### What the handler and the sink do -/

/-- Something happens to the session; the end of the handler closes its socket. -/
def apply (l : Link) (event : Session.Event) : Link :=
  let session := l.session.step event
  if session.isRunning then { l with session }
  else { l with session, network := l.network.close l.socket }

/-- The handler writes a payload before it begins to run. -/
def writeFirst (l : Link) (payload : Bytes) : Link :=
  let (outcome, network) := l.network.write l.socket payload
  let session := l.session.writeFirst payload outcome
  if session.isRunning then { l with session, network }
  else { l with session, network := network.close l.socket }

/-- The handler hands its next message to the queue. -/
def dispatch (l : Link) : Option Link :=
  match l.session.handler.undelivered with
  | [] => none
  | message :: _ =>
    if l.session.isRunning = false then none
    else
      match l.queue.dispatch message with
      | .accepted queue => some ({ l with queue }.apply .deliver)
      | .refused fault => some (l.apply (.refuse fault))
      | .waits => none

/-- The sink takes the next message. -/
def deliver (l : Link) : Option Link :=
  if l.queue.queue.isEmpty then none else some { l with queue := l.queue.deliver fun _ => none }

/-- The most bytes that are read at once. -/
def chunkSize : Nat := 65536

/-- The handler reads. -/
def read (l : Link) : Option Link :=
  if l.session.isSelecting = false then none
  else
    match l.network.read l.socket chunkSize with
    | (.bytes chunk, network) => some ({ l with network }.apply (.read chunk))
    | (.ended, network) => some ({ l with network }.apply (.read []))
    | (.failed error, network) => some ({ l with network }.apply (.readFailed error))
    | (.nothing, _) => none

/-- The handler takes the next payload and writes it, or sees that there never will be one. -/
def write (l : Link) : Option Link :=
  if l.session.isSelecting = false then none
  else
    match l.session.queue with
    | payload :: _ =>
      let (outcome, network) := l.network.write l.socket payload
      some ({ l with network }.apply (.write outcome))
    | [] => if l.session.attached then none else some (l.apply .outboundClosed)

/-- The handler sees the signal to shut down. -/
def signal (l : Link) : Option Link :=
  if l.session.isSelecting then
    let (signalled, shutdown) := l.shutdown.poll 0
    if signalled then some ({ l with shutdown }.apply .signal) else none
  else none

/-- The handler sees that its connection is idle. -/
def expire (l : Link) : Option Link :=
  if l.session.isSelecting ∧ l.session.handler.timer.expiredBy l.session.now then
    some (l.apply .expire)
  else none

/-- The first step that is possible. -/
def act (l : Link) : Option Link :=
  [dispatch, deliver, read, write, signal, expire].findSome? fun step => step l

/-! ### Waiting -/

/-- How long a wait lasts at most, in milliseconds. -/
def longestWait : Nat := 5000

/-- Lets time pass until the idle timer expires, and where it does not, up to the limit. -/
def wake (limit : Nat) (l : Link) : Option Link :=
  let now := l.session.now
  if limit ≤ now then none
  else
    let time := match l.session.handler.timer.deadline with
      | some deadline => if now < deadline ∧ deadline ≤ limit then deadline else limit
      | none => limit
    some (l.apply (.pass (time - now)))

/-- Waits until a condition holds. -/
def wait (l : Link) (condition : Link → Bool) : Link :=
  runUntil act (wake (l.session.now + longestWait)) condition 1000000 l

/-- Waits until the sink has taken so many messages. -/
def waitMessages (l : Link) (count : Nat) : Link := l.wait fun l => count ≤ l.queue.taken.length

/-- Waits for the end of the handler, and then until the sink has taken so many messages. -/
def finish (l : Link) (expected : Nat) : Link :=
  (l.wait fun l => !l.session.isRunning).waitMessages expected

/-- What was noted: by the handler, and about its end. -/
def notices (l : Link) : List Notice :=
  l.session.notices ++
    if l.session.isRunning then [] else [.handlerDropped l.session.handler.remote]

/-! ### What the peer does -/

/-- The peer writes. -/
def peerWrite (l : Link) (bytes : Bytes) : Link :=
  { l with network := (l.network.write l.peer bytes).2 }

/-- The peer reads so many bytes, or fewer where the connection ends before. -/
def peerRead (l : Link) (count : Nat) : Bytes × Link :=
  let l := l.wait fun l => (l.network.socket? l.peer).any fun socket =>
    count ≤ socket.arrived.length ∨ socket.ending.isSome
  match l.network.read l.peer count with
  | (.bytes chunk, network) => (chunk, { l with network })
  | (_, network) => ([], { l with network })

end Link

end Framewire
