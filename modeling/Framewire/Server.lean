/-
**Servers.**

A server listens at an address.  It enrols every connection that it accepts in its registry, and
sends a message to the connection that is current for the message's address; without one the
message is dropped with a warning.  When a connection ends, its enrolment is withdrawn.  A stop
empties the registry and ends all connections.

Main definitions:

* `Server.Round`, `Server` — what runs between a start and a stop, and the server;
* `Server.start`, `Server.stop`, `Server.destroy`, `Server.setReceiver` — its life;
* `Server.send` — sends a message;
* `Server.accept`, `Server.react`, `Server.deliver` — what happens while it runs.
-/

import Framewire.Config.Basic
import Framewire.Hub
import Framewire.Lifecycle
import Framewire.Network
import Framewire.Registry

set_option autoImplicit false

namespace Framewire

/-- What runs between a start and a stop of a server. -/
structure Server.Round where
  /-- the endpoint at which the server listens -/
  address : Endpoint
  /-- the number of its listener -/
  listener : Nat
  hub : Hub

/-- A server. -/
structure Server where
  config : ServerConfig
  life : Lifecycle Receiver Server.Round := {}
  registry : Registry := {}
  /-- the queues of earlier rounds, each with a consumer of its own -/
  retired : List SinkQueue := []

namespace Server

/-- The name of servers in messages. -/
def name : String := "tcp-server"

/-- A new server. -/
def new (config : ServerConfig) : Server := { config }

/-! ### Looking at a server -/

/-- Whether the server runs. -/
def isRunning (s : Server) : Bool := s.life.isRunning

/-- The number of addresses that have a connection. -/
def connectionCount (s : Server) : Nat := s.registry.size

/-- Whether an address has a connection. -/
def isConnected (s : Server) (remote : Endpoint) : Bool := s.registry.contains remote

/-- The endpoint at which the server listens, or would listen if it were started; if there is none,
the unbound endpoint. -/
def localAddress (s : Server) : Endpoint :=
  match s.life.running with
  | some round => round.address
  | none => s.config.bindAddress.toOption.getD .unbound

/-! ### Its life -/

/-- What a server says when it cannot listen. -/
def bindText (address : Endpoint) (error : SystemError) : String :=
  "Failed to bind server to address: " ++ address.text ++ " - Error: " ++ error.text

/-- Acquires what a server needs to run: an endpoint to listen at, and a queue to the sink. -/
def acquire (config : ServerConfig) (network : Network) :
    List Notice × Except Fault (Round × Network) :=
  match config.bindAddress with
  | .error issue => ([], .error issue.fault)
  | .ok address =>
    match network.listen address with
    | .error error =>
      ([.bindFailed (bindText address error)], .error (.illegalState (bindText address error)))
    | .ok (listener, network) =>
      ([], (SinkQueue.start name config.sinkChannelCapacity.toNat).map fun queue =>
        (⟨network.listenAddress listener, listener, { queue }⟩, network))

/-- Gives the server its sink. -/
def setReceiver (s : Server) (receiver : Receiver) : Except Fault Server :=
  ((s.life.setSink receiver).mapError Misuse.fault).map fun life => { s with life }

/-- Starts the server. -/
def start (s : Server) (network : Network) : List Notice × Except Fault (Server × Network) :=
  match s.life.startObstacle? with
  | some misuse => ([], .error misuse.fault)
  | none =>
    let (notices, acquired) := acquire s.config network
    (notices, acquired.map fun (round, network) =>
      ({ s with life := { s.life with running := some round } }, network))

/-- Stops the server: the registry is emptied, and every connection ends. -/
def stop (s : Server) (network : Network) : List Notice × Server × Network :=
  match s.life.running with
  | none => ([], s, network)
  | some round =>
    let ids := round.hub.attached.map (·.id)
    let sockets := round.hub.attached.map (·.socket)
    (round.hub.attached.map fun a => .handlerDropped a.handler.remote,
      { s with
        life := s.life.stop
        registry := ids.foldl Registry.hangUp s.registry.clear
        retired := s.retired ++ [round.hub.retire] },
      sockets.foldl Network.close (network.closeListener round.listener))

/-- Stops the server for good. -/
def destroy (s : Server) (network : Network) : List Notice × Server × Network :=
  let (notices, s, network) := s.stop network
  (notices, { s with life := s.life.destroy }, network)

/-! ### What happens while it runs -/

/-- Sends a message to the connection of its address. -/
def send (s : Server) (message : Message) : Except Fault (List Notice × Server) :=
  match s.life.admitSend with
  | .error misuse => .error misuse.fault
  | .ok _ =>
    let (sent, registry) := s.registry.send message
    .ok (if sent then [] else [.noConnection message.remote], { s with registry })

/-- Takes in a connection. -/
def accept (s : Server) (socket : Nat) (remote : Endpoint) (now : Nat) : List Notice × Server :=
  let id := s.registry.nextId
  let (notices, registry) := s.registry.enrol remote
  let handler := Handler.new remote s.config.idleTimeout now
  (notices, { s with
    registry
    life := s.life.modify fun round => { round with hub := round.hub.attach id socket handler } })

/-- What is noted about the end of a connection. -/
def endNotices (remote : Endpoint) : Except Fault CloseReason → List Notice
  | .ok _ => []
  | .error fault => [.incomingFailed remote fault]

/-- The handler of a connection reacts; when it ends, its enrolment is withdrawn. -/
def react (s : Server) (id : Nat) (now : Nat) (stimulus : Stimulus) :
    Option (Reaction × List Notice × Server) := do
  let round ← s.life.running
  let (reaction, hub) ← round.hub.react id now stimulus
  let s := { s with life := s.life.modify fun round => { round with hub } }
  match reaction.ended with
  | none => return (reaction, reaction.notices, s)
  | some result =>
    let remote := reaction.handler.remote
    let (notices, registry) := s.registry.withdraw id
    return (reaction,
      reaction.notices ++ endNotices remote result ++ notices ++ [.handlerDropped remote],
      { s with registry := registry.hangUp id })

/-- A handler hands its next undelivered message to the queue, if there is room. -/
def dispatch (s : Server) (id : Nat) : Option Server := do
  let round ← s.life.running
  let hub ← round.hub.dispatch id
  return { s with life := s.life.modify fun round => { round with hub } }

/-- The queue to the sink of the round that runs, or of an earlier round. -/
def queue? (s : Server) : (earlier : Option Nat) → Option SinkQueue
  | none => s.life.running.map (·.hub.queue)
  | some k => s.retired[k]?

/-- The server with another state of that queue. -/
def setQueue (s : Server) (queue : SinkQueue) : (earlier : Option Nat) → Server
  | none => { s with life := s.life.modify fun round =>
      { round with hub := round.hub.setQueue queue } }
  | some k => { s with retired := s.retired.set k queue }

/-- The consumer of a round's queue gives the next message to the sink.  A sink that echoes sends it
back. -/
def deliver (s : Server) (earlier : Option Nat) :
    Option (Message × Option Panic × List Notice × Server) := do
  let receiver ← s.life.sink
  let queue ← s.queue? earlier
  let message ← queue.queue.head?
  let s := s.setQueue (queue.deliver receiver.sink) earlier
  match receiver.sink message with
  | some panic => return (message, some panic, [.sinkPanicked message.remote panic], s)
  | none =>
    if receiver.echoes then
      match s.send message with
      | .ok (notices, s) => return (message, none, notices, s)
      | .error _ => return (message, none, [], s)
    else return (message, none, [], s)

end Server

end Framewire
