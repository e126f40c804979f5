/-
**A world with sockets of the operating system at its edge.**

The connectors of a world see a network that the library keeps by itself.  A gateway lets that
network reach out: a connection that leads out of the program has a socket of the operating system,
and in the world's network a *stand-in*, which plays the far end.  What the one receives is written
into the other.  Everything that is decided is decided by the world; the gateway moves bytes, tells
the time, and tells what became of a dial.

Main definitions:

* `Endpoint.toSystem`, `Endpoint.ofSystem`, `SystemError.ofSystem` — addresses and errors;
* `Bridge`, `Gateway` — a connection that leads out, and a world with its bridges;
* `Gateway.turn` — moves what there is to move, and lets the world act;
* `Gateway.listen`, `Gateway.dial` — how connections come to lead out.
-/

import Framewire.World.Peer
import Std.Async.TCP

set_option autoImplicit false

namespace Framewire

open Std.Async

/-! ### Addresses and errors -/

/-- An endpoint as the operating system takes it. -/
def Endpoint.toSystem : Endpoint → Std.Net.SocketAddress
  | .v4 ip port => .v4 ⟨.ofParts ip.a ip.b ip.c ip.d, port⟩
  | .v6 ip port _ =>
    let group (i : Nat) : UInt16 := (ip.groups[i]?).getD 0
    .v6 ⟨.ofParts (group 0) (group 1) (group 2) (group 3) (group 4) (group 5) (group 6) (group 7),
      port⟩

/-- An endpoint as the operating system gives it. -/
def Endpoint.ofSystem : Std.Net.SocketAddress → Endpoint
  | .v4 a =>
    let octet (i : Nat) : UInt8 := (a.addr.octets.toList[i]?).getD 0
    .v4 ⟨octet 0, octet 1, octet 2, octet 3⟩ a.port
  | .v6 a => .v6 ((Ipv6.ofGroups? a.addr.segments.toList).getD .unspecified) a.port 0

/-- The number of an error, which the operating system may give with its sign changed. -/
def SystemError.numberOf (code : UInt32) : Nat :=
  let n := code.toNat
  if 2147483648 ≤ n then 4294967296 - n else n

/-- An error as the operating system gives it. -/
def SystemError.ofSystem (e : IO.Error) : SystemError :=
  match e with
  | .resourceBusy code text => .ofNumber (numberOf code) text
  | .resourceVanished code text => .ofNumber (numberOf code) text
  | .unsupportedOperation code text => .ofNumber (numberOf code) text
  | .protocolError code text => .ofNumber (numberOf code) text
  | .timeExpired code text => .ofNumber (numberOf code) text
  | .otherError code text => .ofNumber (numberOf code) text
  | .noSuchThing _ code text => .ofNumber (numberOf code) text
  | .invalidArgument _ code text => .ofNumber (numberOf code) text
  | .permissionDenied _ code text => .ofNumber (numberOf code) text
  | e => .worded (toString e)

/-! ### Bridges -/

/-- A connection that leads out of the program. -/
structure Bridge where
  /-- the number of the stand-in's socket -/
  standIn : Nat
  outside : TCP.Socket.Client
  /-- the read that is under way, until the outside has finished -/
  reading : Option (AsyncTask (Option ByteArray))

/-- A host whose addresses can all be listened on, and from which every dial may succeed. -/
def Host.unbounded : Host where
  refusal _ := none
  obstacle := none

/-- A world, and its connections that lead out. -/
structure Gateway where
  world : World := .new .unbounded
  bridges : List Bridge := []

namespace Gateway

/-- The most bytes that are read at once. -/
def chunkSize : UInt64 := 65536

/-- Changes the world's network. -/
def onNetwork (g : Gateway) (f : Network → Network) : Gateway :=
  { g with world := g.world.onNetwork f }

/-- A connection leads out from now on. -/
def addBridge (g : Gateway) (standIn : Nat) (outside : TCP.Socket.Client) : IO Gateway := do
  let reading ← (outside.recv? chunkSize).toIO
  return { g with bridges := g.bridges ++ [⟨standIn, outside, some reading⟩] }

/-- Takes in what has come from outside. -/
def takeIn (network : Network) (b : Bridge) : IO (Network × Bridge) := do
  match b.reading with
  | none => return (network, b)
  | some reading =>
    if ← IO.hasFinished reading then
      try
        match ← reading.block with
        | some bytes =>
          let (_, network) := network.write b.standIn bytes.toList
          let next ← (b.outside.recv? chunkSize).toIO
          return (network, { b with reading := some next })
        | none => return (network.finish b.standIn, { b with reading := none })
      catch _ => return (network.abort b.standIn, { b with reading := none })
    else return (network, b)

/-- Sends out what the stand-in has received; the bridge goes when nothing more can come. -/
def sendOut (network : Network) (b : Bridge) : IO (Network × Option Bridge) := do
  let (bytes, network) := network.readAll b.standIn
  try
    if bytes ≠ [] then (b.outside.send ⟨bytes.toArray⟩).block
    match (network.socket? b.standIn).bind (·.ending) with
    | none => return (network, some b)
    | some _ =>
      b.outside.shutdown.block
      return (network, none)
  catch _ => return (network.abort b.standIn, none)

/-- Lets the world act until it can do nothing by itself. -/
def settle (w : World) : World :=
  runUntil World.next (fun _ => none) (fun _ => false) World.patience w

/-- Moves what there is to move, and lets the world act. -/
def turn (g : Gateway) (now : Nat) : IO Gateway := do
  let mut network := g.world.network
  let mut entered : List Bridge := []
  for b in g.bridges do
    let (n, b) ← takeIn network b
    network := n
    entered := entered ++ [b]
  let world := settle { g.world with network, now }
  network := world.network
  let mut left : List Bridge := []
  for b in entered do
    let (n, b?) ← sendOut network b
    network := n
    left := left ++ b?.toList
  return { world := { world with network }, bridges := left }

/-! ### How connections come to lead out -/

/-- A socket of the operating system that listens at an endpoint, and the endpoint that it got. -/
def listen (address : Endpoint) : IO (TCP.Socket.Server × Endpoint) := do
  let server ← TCP.Socket.Server.mk
  server.bind address.toSystem
  server.listen 1024
  return (server, .ofSystem (← server.getSockName))

/-- A connection has come from outside to a listener of the world. -/
def arrive (g : Gateway) (listener : Nat) (outside : TCP.Socket.Client) : IO Gateway := do
  let remote := Endpoint.ofSystem (← outside.getPeerName)
  let address := g.world.network.listenAddress listener
  let (standIn, network) := g.world.network.connect listener remote address
  (g.onNetwork fun _ => network).addBridge standIn outside

/-- A connection to an endpoint is there: dials to it succeed from now on, and the next one is the
one that leads out. -/
def meet (g : Gateway) (address : Endpoint) : Gateway × Nat :=
  let (listener, network) := g.world.network.addListener address
  ({ g with world := { g.world with network := { network with silent := [] } } }, listener)

/-- A dial to an endpoint has failed: so does every dial of the world. -/
def despair (g : Gateway) (error : SystemError) : Gateway :=
  g.onNetwork fun n => { n with host := { n.host with obstacle := some error }, silent := [] }

end Gateway

end Framewire
