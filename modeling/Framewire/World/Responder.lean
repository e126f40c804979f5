/-
**A destination, and a responder there.**

A destination is a plain listener: somebody there takes connections, reads and writes what he likes,
and ends his side, or the connection, when he likes.  It is no connector and knows nothing of frames.
A scene is a world with such a listener in it, and what can happen in a scene is what its connectors
do, what is done at the destination, and that time passes.

A responder is somebody at a destination who takes every connection that comes and sends back what he
reads, or, to the first bytes that he gets, an answer that was fixed before.  He can close the
connection after that.

Main definitions:

* `Errand.Visit`, `Errand.Scene` — a connection at a destination, and a world with a destination;
* `Errand.Step`, `Errand.Scene.step`, `Errand.Scene.run` — what can happen;
* `Responder`, `Responder.moves` — the responder, and what he does next.
-/

import Framewire.World.Peer

set_option autoImplicit false

namespace Framewire

namespace Errand

/-- A connection at the destination. -/
structure Visit where
  socket : Nat
  /-- everything that was read there -/
  got : Bytes := []
  /-- everything that was written there -/
  said : Bytes := []

/-- A world, and the connections that a listener in it has taken. -/
structure Scene where
  world : World
  /-- the number of the listener -/
  listener : Nat
  visits : List Visit := []

/-- What can happen in a scene. -/
inductive Step where
  /-- the destination takes a connection -/
  | accept
  /-- the destination reads at most so many of the bytes that have arrived -/
  | receive (visit count : Nat)
  /-- the destination writes a chunk -/
  | reply (visit : Nat) (chunk : Bytes)
  /-- the destination will write nothing more -/
  | finish (visit : Nat)
  /-- the destination closes a connection -/
  | leave (visit : Nat)
  /-- a connector does something by itself, or time passes -/
  | act (action : World.Action)

namespace Scene

/-- Everything that was read at the destination. -/
def got (s : Scene) : Bytes := s.visits.flatMap (·.got)

/-- Everything that was written at the destination. -/
def said (s : Scene) : Bytes := s.visits.flatMap (·.said)

/-- What has arrived on a connection of the destination and was not read. -/
def arrived (s : Scene) (v : Visit) : Bytes :=
  ((s.world.network.socket? v.socket).map (·.arrived)).getD []

/-- The scene with another state of a connection and of the network. -/
def set (s : Scene) (number : Nat) (v : Visit) (network : Network) : Scene :=
  { s with world := { s.world with network }, visits := s.visits.set number v }

/-- What a step comes to, if it is possible. -/
def step (s : Scene) : Step → Option Scene
  | .accept => do
    let (socket, network) ← s.world.network.accept s.listener
    return { s with world := { s.world with network }, visits := s.visits ++ [{ socket }] }
  | .receive number count => do
    let v ← s.visits[number]?
    match s.world.network.read v.socket count with
    | (.bytes (byte :: bytes), network) =>
      return s.set number { v with got := v.got ++ byte :: bytes } network
    | _ => none
  | .reply number chunk => do
    let v ← s.visits[number]?
    match s.world.network.write v.socket chunk with
    | (.complete, network) => return s.set number { v with said := v.said ++ chunk } network
    | _ => none
  | .finish number => do
    let v ← s.visits[number]?
    return s.set number v (s.world.network.finish v.socket)
  | .leave number => do
    let v ← s.visits[number]?
    return s.set number v (s.world.network.close v.socket)
  | .act action => (s.world.act action).map fun world => { s with world }

/-- What a step does; an impossible one does nothing. -/
def after (s : Scene) (x : Step) : Scene := (s.step x).getD s

/-- What a sequence of steps does. -/
def run (s : Scene) (steps : List Step) : Scene := steps.foldl after s

@[simp] theorem run_nil (s : Scene) : s.run [] = s := rfl

@[simp] theorem run_cons (s : Scene) (x : Step) (steps : List Step) :
    s.run (x :: steps) = (s.after x).run steps := rfl

end Scene

end Errand

/-- Somebody who answers. -/
structure Responder where
  /-- the number of the listener -/
  listener : Nat
  /-- the answer to the first bytes, if it is not those bytes -/
  answer : Option Bytes := none
  /-- whether a connection is closed after its first answer -/
  closes : Bool := false
  /-- everything that was read -/
  received : Bytes := []

namespace Responder

/-- The answer to bytes. -/
def answerTo (r : Responder) (s : Errand.Scene) (bytes : Bytes) : Bytes :=
  if s.got = [] then r.answer.getD bytes else bytes

/-- What a responder does next: he takes a connection, or answers everything that has arrived on
one. -/
def moves (r : Responder) (s : Errand.Scene) : List Errand.Step :=
  if (s.world.network.accept s.listener).isSome then [.accept]
  else
    match s.visits.findIdx? (fun v => s.arrived v ≠ []) with
    | none => []
    | some number =>
      let bytes := ((s.visits[number]?).map s.arrived).getD []
      [.receive number bytes.length, .reply number (r.answerTo s bytes)]
        ++ if r.closes then [.leave number] else []

end Responder

end Framewire
