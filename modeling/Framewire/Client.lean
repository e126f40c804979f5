/-
**Clients.**

A client sends each message over the one connection that its pool keeps for the message's address.
A connection that cannot be made, or fails, is reported with a warning.  What comes back goes to
the client's sink, from the address that was dialed.  A stop closes the pool and ends all
connections.

Main definitions:

* `Client.Round`, `Client` — what runs between a start and a stop, and the client;
* `Client.start`, `Client.stop`, `Client.destroy`, `Client.setReceiver` — its life;
* `Client.send` — sends a message;
* `Client.Round.submit`, `Client.Round.dial`, `Client.Round.settle`, `Client.Round.react`,
  `Client.Round.evict` — what happens while it runs.
-/

import Framewire.Config.Basic
import Framewire.Hub
import Framewire.Lifecycle
import Framewire.Network
import Framewire.Pool

set_option autoImplicit false

namespace Framewire

/-- What runs between a start and a stop of a client. -/
structure Client.Round where
  connectTimeout : Nat
  idleTimeout : Option Nat
  pool : Pool Bytes := {}
  hub : Hub
  /-- the slots that dial, each with the time at which it gives up -/
  dials : List (Nat × Nat) := []

/-- A client. -/
structure Client where
  config : ClientConfig
  life : Lifecycle Receiver Client.Round := {}
  /-- the queues of earlier rounds, each with a consumer of its own -/
  retired : List SinkQueue := []

namespace Client

/-- The name of clients in messages. -/
def name : String := "tcp-client"

/-! ### A round -/

namespace Round

/-- A round of a client with the given configuration and queue. -/
def new (config : ClientConfig) (queue : SinkQueue) : Round where
  connectTimeout := config.connectTimeout
  idleTimeout := config.idleTimeout
  hub := { queue }

/-- What is noted about what became of payloads. -/
def poolNotices (outcomes : List (Pool.Outcome Bytes)) : List Notice :=
  outcomes.filterMap fun
    | .refused destination payload => some (.dropped payload.length destination)
    | _ => none

/-- Something happens to the pool. -/
def step (r : Round) (event : Pool.Event Bytes) : List Notice × Round :=
  let (pool, outcomes) := r.pool.step event
  (poolNotices outcomes, { r with pool })

/-- Submits a message. -/
def submit (r : Round) (message : Message) : List Notice × Round :=
  r.step (.submit message.remote message.payload)

/-- Closes the pool. -/
def close (r : Round) : Round := (r.step .close).2

/-- A waiting slot with a payload begins to dial. -/
def dial (r : Round) (slot now : Nat) : Option Round := do
  let task ← r.pool.task? slot
  match task.phase, task.queue with
  | .waiting, _ :: _ =>
    let (_, r) := r.step (.dial slot)
    return { r with dials := (slot, now + r.connectTimeout) :: r.dials }
  | .waiting, [] =>
    if r.pool.isCurrent slot then none else return (r.step (.finish slot)).2
  | _, _ => none

/-- The slot does not dial any more. -/
def undial (r : Round) (slot : Nat) : Round :=
  { r with dials := r.dials.filter fun entry => entry.1 ≠ slot }

/-- What is noted about the end of a connection. -/
def endNotices (remote : Endpoint) : Except Fault CloseReason → List Notice
  | .ok _ => []
  | .error fault => [.outgoingFailed remote fault]

/-- A dial fails. -/
def fail (r : Round) (slot : Nat) (destination : Endpoint) (fault : Fault) : List Notice × Round :=
  ([.cannotConnect destination fault], ((r.undial slot).step (.undialed slot)).2)

/-- A dial has come to something: what is noted, and the round and the network after it. -/
def settle (r : Round) (slot now : Nat) (network : Network) :
    Option (List Notice × Round × Network) := do
  let task ← r.pool.task? slot
  match task.phase with
  | .dialing first =>
    match network.dial task.destination with
    | (.hanging, _) => none
    | (.refused error, network) =>
      let (notices, r) := r.fail slot task.destination (.io error)
      return (notices, r, network)
    | (.connected socket, network) =>
      let (outcome, network) := network.write socket first
      let handler := Handler.new task.destination r.idleTimeout now
      let reaction := handler.react now (.payload first outcome)
      match reaction.ended with
      | none =>
        let (_, r) := (r.undial slot).step (.dialed slot true)
        return ([], { r with hub := r.hub.attach slot socket reaction.handler }, network)
      | some result =>
        let (_, r) := (r.undial slot).step (.dialed slot false)
        return (endNotices task.destination result ++ [.handlerDropped task.destination], r,
          network.close socket)
  | _ => none

/-- A dial that takes too long is given up. -/
def giveUp (r : Round) (slot now : Nat) : Option (List Notice × Round) := do
  let deadline ← r.dials.lookup slot
  let task ← r.pool.task? slot
  if deadline ≤ now then
    return r.fail slot task.destination (.connectTimeout task.destination.text)
  else none

/-- The handler of a slot's connection reacts.  A payload is taken out of the slot's queue when it
is written; when the connection ends, the slot comes to its end. -/
def react (r : Round) (slot now : Nat) (stimulus : Stimulus) :
    Option (Reaction × List Notice × Round) := do
  let (reaction, hub) ← r.hub.react slot now stimulus
  let r := { r with hub }
  let wrote := reaction.ended.isNone
  let r := match stimulus with
    | .payload .. => (r.step (.write slot wrote)).2
    | _ => if wrote then r else (r.step (.finish slot)).2
  match reaction.ended with
  | none => return (reaction, reaction.notices, r)
  | some result =>
    let remote := reaction.handler.remote
    return (reaction, reaction.notices ++ endNotices remote result ++ [.handlerDropped remote], r)

/-- A slot that has come to its end is evicted. -/
def evict (r : Round) (slot : Nat) : Option (List Notice × Round) := do
  let task ← r.pool.task? slot
  match task.phase with
  | .ending => return r.step (.evict slot)
  | _ => none

/-- Ends everything that runs. -/
def stop (r : Round) (network : Network) : List Notice × SinkQueue × Network :=
  (r.hub.attached.map fun a => .handlerDropped a.handler.remote,
    r.hub.retire,
    (r.hub.attached.map (·.socket)).foldl Network.close network)

end Round

/-! ### Its life -/

/-- A new client. -/
def new (config : ClientConfig) : Client := { config }

/-- Whether the client runs. -/
def isRunning (c : Client) : Bool := c.life.isRunning

/-- The number of destinations that have a slot. -/
def poolSize (c : Client) : Nat := (c.life.running.map (·.pool.size)).getD 0

/-- Whether a destination has a slot. -/
def isConnected (c : Client) (destination : Endpoint) : Bool :=
  c.life.running.any (·.pool.contains destination)

/-- A client is bound nowhere. -/
def localAddress (_ : Client) : Endpoint := .unbound

/-- Acquires what a client needs to run: a queue to the sink. -/
def acquire (config : ClientConfig) : Except Fault Round :=
  (SinkQueue.start name config.sinkChannelCapacity.toNat).map (Round.new config)

/-- Gives the client its sink. -/
def setReceiver (c : Client) (receiver : Receiver) : Except Fault Client :=
  ((c.life.setSink receiver).mapError Misuse.fault).map fun life => { c with life }

/-- Starts the client. -/
def start (c : Client) : Except Fault Client :=
  (c.life.start (acquire c.config)).map fun life => { c with life }

/-- Stops the client: the pool is closed, and every connection ends. -/
def stop (c : Client) (network : Network) : List Notice × Client × Network :=
  match c.life.running with
  | none => ([], c, network)
  | some round =>
    let (notices, queue, network) := round.stop network
    (notices, { c with life := c.life.stop, retired := c.retired ++ [queue] }, network)

/-- Stops the client for good. -/
def destroy (c : Client) (network : Network) : List Notice × Client × Network :=
  let (notices, c, network) := c.stop network
  (notices, { c with life := c.life.destroy }, network)

/-- Sends a message over the connection of its address. -/
def send (c : Client) (message : Message) : Except Fault (List Notice × Client) :=
  match c.life.admitSend with
  | .error misuse => .error misuse.fault
  | .ok round =>
    let (notices, round) := round.submit message
    .ok (notices, { c with life := { c.life with running := some round } })

/-- The queue to the sink of the round that runs, or of an earlier round. -/
def queue? (s : Client) : (earlier : Option Nat) → Option SinkQueue
  | none => s.life.running.map (·.hub.queue)
  | some k => s.retired[k]?

/-- The client with another state of that queue. -/
def setQueue (s : Client) (queue : SinkQueue) : (earlier : Option Nat) → Client
  | none => { s with life := s.life.modify fun round =>
      { round with hub := round.hub.setQueue queue } }
  | some k => { s with retired := s.retired.set k queue }

/-- The consumer of a round's queue gives the next message to the sink.  A sink that echoes sends it
back. -/
def deliver (s : Client) (earlier : Option Nat) :
    Option (Message × Option Panic × List Notice × Client) := do
  let receiver ← s.life.sink
  let queue ← s.queue? earlier
  let message ← queue.queue.head?
  let s := s.setQueue (queue.deliver receiver.sink) earlier
  match receiver.sink message with
  | some panic => return (message, some panic, [.sinkPanicked message.remote panic], s)
  | none =>
    if receiver.echoes then
      match s.send message with
      | .ok (notices, s) => return (message, none, notices, s)
      | .error _ => return (message, none, [], s)
    else return (message, none, [], s)

end Client

end Framewire
