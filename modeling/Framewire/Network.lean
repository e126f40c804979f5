/-
**The network that connectors run on.**

A network has listeners, which wait for connections, and sockets, which come in pairs: what is
written into one of a pair arrives, in order, at the other.  What has arrived is read in pieces of
any size.  A direction ends when its writer has finished, and then the reader finds the end behind
everything that was written, or when the connection is aborted.

Which addresses can be listened on, whether anything can be reached at all, and which ports are
given out is a property of the host.  On an *isolated* host every dial fails at once.

Main definitions:

* `Host` — what a host admits; `Host.connected`, `Host.isolated` — two hosts;
* `Socket`, `Listener`, `Network` — the state of a network;
* `Network.listen`, `Network.dial`, `Network.connect`, `Network.accept` — how connections come to be;
* `Network.write`, `Network.read` — how bytes go through them;
* `Network.finish`, `Network.close`, `Network.abort` — how they end.
-/

import Framewire.Handler

set_option autoImplicit false

namespace Framewire

/-! ### Hosts -/

/-- What a host admits. -/
structure Host where
  /-- what listening on an address fails with, if it cannot be listened on -/
  refusal : Ip → Option SystemError
  /-- what every dial fails with, if no dial can succeed -/
  obstacle : Option SystemError
  /-- the port that is given out after so many others -/
  port : Nat → UInt16 := fun given => .ofNat (49152 + given)

/-- A host gives out no port again before so many others. -/
def Host.Spares (host : Host) (count : Nat) : Prop :=
  ∀ i j, i < j → j < i + count → host.port i ≠ host.port j

namespace Ip

/-- The IPv4 address that an address is or maps, and otherwise the address itself. -/
def canonical : Ip → Ip
  | v4 ip => v4 ip
  | v6 ip => match ip.mapped? with
    | some ip => v4 ip
    | none => v6 ip

/-- Whether an address stands for every interface. -/
def isUnspecified (ip : Ip) : Bool := ip = v4 .unspecified ∨ ip = v6 .unspecified

/-- Whether an address stands for the host itself. -/
def isLoopback (ip : Ip) : Bool :=
  match ip.canonical with
  | v4 ip => ip.a = 127
  | v6 ip => ip.groups = [0, 0, 0, 0, 0, 0, 0, 1]

/-- Whether a connection to the second address can reach a listener on the first. -/
def covers (listening dialed : Ip) : Bool :=
  match listening.canonical, dialed.canonical with
  | v6 a, b => a = .unspecified ∨ v6 a = b
  | v4 a, v4 b => a = .unspecified ∨ a = b
  | v4 _, v6 _ => false

/-- Whether two listeners on the same port would get in each other's way. -/
def overlaps (a b : Ip) : Bool := a.covers b ∨ b.covers a

end Ip

/-- A host on which everything can reach everything. -/
def Host.connected : Host where
  refusal ip := if ip.isUnspecified ∨ ip.isLoopback then none else some .addressNotAvailable
  obstacle := none

/-- A host without a way to anywhere, itself included.  Any IPv4 address can be listened on, but of
the others only the one for every interface. -/
def Host.isolated : Host where
  refusal ip :=
    match ip.canonical with
    | .v4 _ => none
    | .v6 ip => if ip = .unspecified then none else some .addressNotAvailable
  obstacle := some .networkUnreachable

/-! ### Sockets and listeners -/

/-- How a direction of a connection ended. -/
inductive Ending where
  /-- the writer has finished -/
  | finished
  /-- the connection was aborted -/
  | aborted
deriving DecidableEq, Repr

/-- One of a pair of connected sockets. -/
structure Socket where
  /-- the socket's own endpoint -/
  here : Endpoint
  /-- the endpoint of the other socket -/
  there : Endpoint
  /-- the number of the other socket -/
  twin : Nat
  /-- what has arrived and was not read -/
  arrived : Bytes := []
  /-- how the incoming direction ends behind that, if it has ended -/
  ending : Option Ending := none
  /-- whether bytes can still be written -/
  writable : Bool := true
  /-- whether the socket is open -/
  isOpen : Bool := true
deriving Repr

/-- A listener, and the accepted ends of the connections that nobody has taken, the oldest one
first. -/
structure Listener where
  address : Endpoint
  backlog : List Nat := []
  isOpen : Bool := true
deriving Repr

/-- The state of a network: sockets and listeners under their numbers. -/
structure Network where
  host : Host
  sockets : List Socket := []
  listeners : List Listener := []
  /-- endpoints at which dials neither succeed nor fail -/
  silent : List Endpoint := []
  /-- how many ports were given out -/
  given : Nat := 0

namespace Network

/-- What a dial comes to. -/
inductive Dial where
  | refused (error : SystemError)
  /-- nothing yet -/
  | hanging
  /-- the number of the dialing end -/
  | connected (socket : Nat)
deriving Repr

/-- What a read comes to. -/
inductive Reading where
  | bytes (chunk : Bytes)
  | nothing
  | ended
  | failed (error : SystemError)
deriving Repr

/-- The socket of a number. -/
def socket? (n : Network) (id : Nat) : Option Socket := n.sockets[id]?

/-- The listener of a number. -/
def listener? (n : Network) (id : Nat) : Option Listener := n.listeners[id]?

/-- Changes a socket. -/
def modifySocket (n : Network) (id : Nat) (f : Socket → Socket) : Network :=
  { n with sockets := n.sockets.modify id f }

/-- Changes a listener. -/
def modifyListener (n : Network) (id : Nat) (f : Listener → Listener) : Network :=
  { n with listeners := n.listeners.modify id f }

/-- Gives out a port. -/
def takePort (n : Network) : UInt16 × Network :=
  (n.host.port n.given, { n with given := n.given + 1 })

/-! ### How connections come to be -/

/-- Whether an open listener is in the way of another one at an endpoint. -/
def isTaken (n : Network) (address : Endpoint) : Bool :=
  n.listeners.any fun l =>
    l.isOpen ∧ l.address.port = address.port ∧ l.address.ip.overlaps address.ip

/-- Adds a listener; its number is the number of listeners before. -/
def addListener (n : Network) (address : Endpoint) : Nat × Network :=
  (n.listeners.length, { n with listeners := n.listeners ++ [{ address }] })

/-- Listens at an endpoint; for port zero a port is given out.  The result is the number of the new
listener. -/
def listen (n : Network) (address : Endpoint) : Except SystemError (Nat × Network) :=
  match n.host.refusal address.ip with
  | some error => .error error
  | none =>
    if address.port = 0 then
      let (port, n) := n.takePort
      .ok (n.addListener (address.withPort port))
    else if n.isTaken address then .error .addressInUse
    else .ok (n.addListener address)

/-- The endpoint at which a listener listens. -/
def listenAddress (n : Network) (listener : Nat) : Endpoint :=
  ((n.listener? listener).map (·.address)).getD .unbound

/-- The address that a dial to every interface reaches: the host itself. -/
def dialedIp : Ip → Ip
  | .v4 ip => .v4 (if ip = .unspecified then .loopback else ip)
  | .v6 ip => .v6 ip

/-- The number of the listener that a dial to an endpoint reaches. -/
def listenerAt? (n : Network) (address : Endpoint) : Option Nat :=
  n.listeners.findIdx? fun l =>
    l.isOpen ∧ l.address.port = address.port ∧ l.address.ip.covers (dialedIp address.ip)

/-- The own address of a connection within the host to another address. -/
def ownIp : Ip → Ip
  | .v4 _ => .v4 .loopback
  | .v6 ip => .v6 ip

/-- Connects a dialing socket at `here` to a listener that was dialed at `there`: the number of the
dialing socket. -/
def connect (n : Network) (listener : Nat) (here there : Endpoint) : Nat × Network :=
  let id := n.sockets.length
  let dialing : Socket := { here, there, twin := id + 1 }
  let accepted : Socket := { here := there, there := here, twin := id }
  let n := { n with sockets := n.sockets ++ [dialing, accepted] }
  (id, n.modifyListener listener fun l => { l with backlog := l.backlog ++ [id + 1] })

/-- Dials an endpoint. -/
def dial (n : Network) (address : Endpoint) : Dial × Network :=
  match n.host.obstacle with
  | some error => (.refused error, n)
  | none =>
    if n.silent.contains address then (.hanging, n)
    else
      match n.listenerAt? address with
      | none => (.refused .connectionRefused, n)
      | some listener =>
        let (port, n) := n.takePort
        let (id, n) := n.connect listener (.ofIp port (ownIp address.ip)) address
        (.connected id, n)

/-- Takes the oldest connection that a listener has and nobody has taken. -/
def accept (n : Network) (listener : Nat) : Option (Nat × Network) :=
  match n.listener? listener with
  | some { backlog := socket :: rest, .. } =>
    some (socket, n.modifyListener listener fun l => { l with backlog := rest })
  | _ => none

/-! ### Bytes -/

/-- Writes bytes into a socket.  When the other one is closed they are lost and the connection is
aborted. -/
def write (n : Network) (id : Nat) (bytes : Bytes) : WriteOutcome × Network :=
  match n.socket? id with
  | none => (.broken 0 .brokenPipe, n)
  | some socket =>
    if socket.isOpen = false ∨ socket.writable = false then (.broken 0 .brokenPipe, n)
    else if ((n.socket? socket.twin).any (·.isOpen)) then
      (.complete, n.modifySocket socket.twin fun t => { t with arrived := t.arrived ++ bytes })
    else
      (.complete, n.modifySocket id fun s =>
        { s with writable := false, ending := some (s.ending.getD .aborted) })

/-- Reads at most `most` of the bytes that have arrived at a socket. -/
def read (n : Network) (id : Nat) (most : Nat) : Reading × Network :=
  match n.socket? id with
  | none => (.ended, n)
  | some socket =>
    match socket.arrived, socket.ending with
    | [], none => (.nothing, n)
    | [], some .finished => (.ended, n)
    | [], some .aborted => (.failed .connectionReset, n)
    | arrived, _ =>
      (.bytes (arrived.take most),
        n.modifySocket id fun s => { s with arrived := s.arrived.drop most })

/-! ### How connections end -/

/-- The incoming direction of a socket ends, unless it has ended before. -/
def endIncoming (n : Network) (id : Nat) (ending : Ending) : Network :=
  n.modifySocket id fun s => { s with ending := some (s.ending.getD ending) }

/-- Nothing more is written into a socket. -/
def finish (n : Network) (id : Nat) : Network :=
  match n.socket? id with
  | none => n
  | some socket =>
    if socket.writable then
      (n.modifySocket id fun s => { s with writable := false }).endIncoming socket.twin .finished
    else n

/-- Aborts the connection of a socket. -/
def abort (n : Network) (id : Nat) : Network :=
  match n.socket? id with
  | none => n
  | some socket =>
    let n := n.modifySocket id fun s => { s with writable := false, isOpen := false, arrived := [] }
    n.modifySocket socket.twin fun s =>
      { s with ending := some (s.ending.getD .aborted), writable := false }

/-- Closes a socket: aborts its connection if something has arrived that was not read. -/
def close (n : Network) (id : Nat) : Network :=
  match n.socket? id with
  | none => n
  | some socket =>
    if socket.isOpen = false then n
    else if socket.arrived.isEmpty then
      (n.finish id).modifySocket id fun s => { s with isOpen := false }
    else n.abort id

/-- Closes a listener, and aborts the connections that nobody has taken. -/
def closeListener (n : Network) (id : Nat) : Network :=
  let n' := ((n.listener? id).map (·.backlog)).getD [] |>.foldl abort n
  n'.modifyListener id fun l => { l with isOpen := false, backlog := [] }

end Network

end Framewire
