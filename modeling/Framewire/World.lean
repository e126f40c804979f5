/-
**Connectors on a network.**

A world is a network, a clock, and connectors on it: servers, clients, and pools without a client
around them.  Everything that a connector does by itself, between the calls of its user, is an
*action*: a server accepts a connection, a handler reads what has arrived, the sink gets its next
message, a slot dials.  Each action is one step, in which nothing else happens; in which order the
possible ones are taken is a matter of the schedule.

A schedule that takes the first possible action until a condition holds, and lets time pass only
when there is none, is enough to see what must come about.

Main definitions:

* `Machine`, `Node`, `World` — connectors, what their sinks took, and all of it together;
* `World.Action`, `World.act`, `World.run` — the steps;
* `World.next`, `World.wait` — the schedule that takes the first possible action;
* `World.start`, `World.stop`, `World.destroy`, `World.send`, … — the calls of users.
-/

import Framewire.Client
import Framewire.Schedule
import Framewire.Server

set_option autoImplicit false

namespace Framewire

/-- A connector. -/
inductive Machine where
  | server (s : Server)
  | client (c : Client)
  /-- a pool by itself, with a sink that takes every message -/
  | pool (r : Client.Round)

/-- A connector, and the messages that its sink took, the last one first. -/
structure Node where
  machine : Machine
  received : List Message := []

/-- Connectors on a network. -/
structure World where
  network : Network
  now : Nat := 0
  nodes : List Node := []
  /-- what was noted, the last notice first -/
  notices : List Notice := []

namespace Machine

/-- The connections of what runs. -/
def hub? : Machine → Option Hub
  | server s => s.life.running.map (·.hub)
  | client c => c.life.running.map (·.hub)
  | pool r => some r.hub

/-- What runs of a client or a pool. -/
def round? : Machine → Option Client.Round
  | server _ => none
  | client c => c.life.running
  | pool r => some r

/-- Changes what runs of a client or a pool. -/
def setRound (r : Client.Round) : Machine → Machine
  | server s => server s
  | client c => client { c with life := { c.life with running := some r } }
  | pool _ => pool r

/-- The number of addresses that have a connection, or a slot. -/
def size : Machine → Nat
  | server s => s.connectionCount
  | client c => c.poolSize
  | pool r => r.pool.size

/-- Whether an address has a connection, or a slot. -/
def isConnected (remote : Endpoint) : Machine → Bool
  | server s => s.isConnected remote
  | client c => c.isConnected remote
  | pool r => r.pool.contains remote

/-- Whether the connector runs. -/
def isRunning : Machine → Bool
  | server s => s.isRunning
  | client c => c.isRunning
  | pool _ => true

/-- The endpoint of the connector. -/
def localAddress : Machine → Endpoint
  | server s => s.localAddress
  | client c => c.localAddress
  | pool _ => .unbound

/-- What a handler finds in its queue. -/
def nextPayload (id : Nat) : Machine → Receipt
  | server s => (s.registry.receive id).1
  | client c => match c.life.running with
    | some r => ofRound id r
    | none => .closed
  | pool r => ofRound id r
where
  /-- What the handler of a slot finds in its queue. -/
  ofRound (id : Nat) (r : Client.Round) : Receipt :=
    match r.pool.task? id with
    | some { queue := payload :: _, .. } => .payload payload
    | some _ => if r.pool.isCurrent id then .empty else .closed
    | none => .closed

/-- The handler of a connection reacts. -/
def react (id now : Nat) (stimulus : Stimulus) :
    Machine → Option (Reaction × List Notice × Machine)
  | server s => do
    let (reaction, notices, s) ← s.react id now stimulus
    return (reaction, notices, server s)
  | client c => do
    let round ← c.life.running
    let (reaction, notices, round) ← round.react id now stimulus
    return (reaction, notices, (client c).setRound round)
  | pool r => do
    let (reaction, notices, r) ← r.react id now stimulus
    return (reaction, notices, pool r)

/-- The handler of a server's connection takes the payload that it found in its queue.  The queue of
a slot is dealt with by the slot's task. -/
def takePayload (id : Nat) : Machine → Machine
  | server s => server { s with registry := (s.registry.receive id).2 }
  | other => other

/-- A handler hands its next undelivered message to the queue, if there is room. -/
def dispatch (id : Nat) : Machine → Option Machine
  | server s => (s.dispatch id).map server
  | client c => do
    let round ← c.life.running
    let hub ← round.hub.dispatch id
    return (client c).setRound { round with hub }
  | pool r => do
    let hub ← r.hub.dispatch id
    return pool { r with hub }

/-- The queues of earlier rounds. -/
def retired : Machine → List SinkQueue
  | server s => s.retired
  | client c => c.retired
  | pool _ => []

/-- The consumer of the queue of the round that runs, or of an earlier round, gives the next message
to the sink. -/
def deliver (earlier : Option Nat) : Machine → Option (Message × Option Panic × List Notice × Machine)
  | server s => do
    let (message, panic, notices, s) ← s.deliver earlier
    return (message, panic, notices, server s)
  | client c => do
    let (message, panic, notices, c) ← c.deliver earlier
    return (message, panic, notices, client c)
  | pool r => do
    if earlier.isSome then none
    let message ← r.hub.queue.queue.head?
    let queue := r.hub.queue.deliver fun _ => none
    return (message, none, [], pool { r with hub := r.hub.setQueue queue })

end Machine

namespace World

/-- A world without connectors. -/
def new (host : Host) : World := { network := { host } }

/-- The connector of a number. -/
def node? (w : World) (id : Nat) : Option Node := w.nodes[id]?

/-- Adds a connector; its number is the number of connectors before. -/
def add (w : World) (machine : Machine) : World := { w with nodes := w.nodes ++ [{ machine }] }

/-- Changes a connector. -/
def setMachine (w : World) (id : Nat) (machine : Machine) : World :=
  { w with nodes := w.nodes.modify id fun node => { node with machine } }

/-- Adds notices to what was noted. -/
def note (w : World) (notices : List Notice) : World :=
  { w with notices := notices.reverse ++ w.notices }

/-! ### Actions -/

/-- What a connector does by itself.  `node` is the connector's number, `id` that of one of its
connections or slots. -/
inductive Action where
  /-- a server takes in a connection -/
  | accept (node : Nat)
  /-- a handler reads at most so many bytes -/
  | read (node id most : Nat)
  /-- a handler hands a message to the queue of the sink -/
  | dispatch (node id : Nat)
  /-- a handler writes the next payload, or sees that there never will be one -/
  | write (node id : Nat)
  /-- a handler sees that its connection is idle -/
  | expire (node id : Nat)
  /-- the consumer of the round that runs gives the sink its next message -/
  | deliver (node : Nat)
  /-- the consumer of an earlier round gives the sink its next message -/
  | drain (node earlier : Nat)
  /-- a slot takes its first payload -/
  | dial (node slot : Nat)
  /-- the dial of a slot comes to something -/
  | settle (node slot : Nat)
  /-- the dial of a slot takes too long -/
  | giveUp (node slot : Nat)
  /-- a slot is evicted -/
  | evict (node slot : Nat)
  /-- time passes -/
  | pass (ms : Nat)
deriving Repr

/-- A handler reacts: what it writes goes into its socket before, and its socket is closed when it
ends. -/
def react (w : World) (node id socket : Nat) (machine : Machine) (network : Network)
    (stimulus : Stimulus) : Option World := do
  let (reaction, notices, machine) ← machine.react id w.now stimulus
  let network := if reaction.ended.isSome then network.close socket else network
  return ({ w with network }.setMachine node machine).note notices

/-- A handler of a connector that looks at everything that may happen. -/
def selecting? (w : World) (node id : Nat) : Option (Machine × Attached) := do
  let n ← w.node? node
  let hub ← n.machine.hub?
  let a ← hub.selecting? id
  return (n.machine, a)

/-- What runs of a client or a pool. -/
def round? (w : World) (node : Nat) : Option (Machine × Client.Round) := do
  let n ← w.node? node
  let round ← n.machine.round?
  return (n.machine, round)

/-- The world with another state of what runs of a client or a pool. -/
def setRound (w : World) (node : Nat) (machine : Machine) (result : List Notice × Client.Round) :
    World :=
  (w.setMachine node (machine.setRound result.2)).note result.1

/-- A consumer of a connector gives the sink its next message. -/
def deliver (w : World) (node : Nat) (earlier : Option Nat) : Option World := do
  let n ← w.node? node
  let (message, panic, notices, machine) ← n.machine.deliver earlier
  let received := if panic.isNone then message :: n.received else n.received
  return { w with nodes := w.nodes.modify node fun _ => ⟨machine, received⟩ }.note notices

/-- What an action comes to, if it is possible. -/
def act (w : World) : Action → Option World
  | .accept node => do
    let n ← w.node? node
    match n.machine with
    | .server s =>
      let round ← s.life.running
      let (socket, network) ← w.network.accept round.listener
      let remote := ((network.socket? socket).map (·.there)).getD .unbound
      let (notices, s) := s.accept socket remote w.now
      return ({ w with network }.setMachine node (.server s)).note notices
    | _ => none
  | .read node id most => do
    let (machine, a) ← w.selecting? node id
    match w.network.read a.socket most with
    | (.bytes (byte :: chunk), network) =>
      w.react node id a.socket machine network (.read (byte :: chunk))
    | (.ended, network) => w.react node id a.socket machine network (.read [])
    | (.failed error, network) => w.react node id a.socket machine network (.readFailed error)
    | _ => none
  | .dispatch node id => do
    let n ← w.node? node
    let machine ← n.machine.dispatch id
    return w.setMachine node machine
  | .write node id => do
    let (machine, a) ← w.selecting? node id
    match machine.nextPayload id with
    | .payload payload =>
      let (outcome, network) := w.network.write a.socket payload
      w.react node id a.socket (machine.takePayload id) network (.payload payload outcome)
    | .closed => w.react node id a.socket machine w.network .outboundClosed
    | .empty => none
  | .expire node id => do
    let (machine, a) ← w.selecting? node id
    if a.handler.timer.expiredBy w.now then
      w.react node id a.socket machine w.network .expired
    else none
  | .deliver node => w.deliver node none
  | .drain node earlier => w.deliver node (some earlier)
  | .dial node slot => do
    let (machine, round) ← w.round? node
    let round ← round.dial slot w.now
    return w.setRound node machine ([], round)
  | .settle node slot => do
    let (machine, round) ← w.round? node
    let (notices, round, network) ← round.settle slot w.now w.network
    return { w with network }.setRound node machine (notices, round)
  | .giveUp node slot => do
    let (machine, round) ← w.round? node
    let result ← round.giveUp slot w.now
    return w.setRound node machine result
  | .evict node slot => do
    let (machine, round) ← w.round? node
    let result ← round.evict slot
    return w.setRound node machine result
  | .pass ms => some { w with now := w.now + ms }

/-- What a sequence of actions comes to; an impossible one is passed over. -/
def run (w : World) (actions : List Action) : World :=
  actions.foldl (fun w action => (w.act action).getD w) w

@[simp] theorem run_nil (w : World) : w.run [] = w := rfl

theorem run_append (w : World) (first later : List Action) :
    w.run (first ++ later) = (w.run first).run later := List.foldl_append

/-! ### The schedule that takes the first possible action -/

/-- The most bytes that this schedule reads at once. -/
def chunkSize : Nat := 65536

/-- The actions that a connector may take, possible or not. -/
def nodeActions (node : Nat) (n : Node) : List Action :=
  let connections := (n.machine.hub?.map (·.attached)).getD []
  let tasks := (n.machine.round?.map (·.pool.tasks)).getD []
  [.accept node]
    ++ connections.flatMap (fun a =>
      [.dispatch node a.id, .read node a.id chunkSize, .write node a.id, .expire node a.id])
    ++ (List.range n.machine.retired.length).map (.drain node) ++ [.deliver node]
    ++ tasks.flatMap fun task =>
      [.evict node task.id, .settle node task.id, .giveUp node task.id, .dial node task.id]

/-- The actions that connectors may take, possible or not. -/
def actions (w : World) : List Action :=
  (w.nodes.zipIdx.map fun (n, node) => nodeActions node n).flatten

/-- The world after the first possible action. -/
def next (w : World) : Option World := w.actions.findSome? w.act

/-- The times at which something will happen by itself. -/
def timers (w : World) : List Nat :=
  w.nodes.flatMap fun n =>
    ((n.machine.hub?.map (·.attached)).getD []).filterMap (·.handler.timer.deadline)
      ++ ((n.machine.round?.map (·.dials)).getD []).map Prod.snd

/-- The next time after now, up to a limit, at which something will happen by itself. -/
def nextTimer (w : World) (limit : Nat) : Option Nat :=
  (w.timers.filter fun time => w.now < time ∧ time ≤ limit).min?

/-- Lets time pass until a timer expires, and where none does, up to the limit. -/
def wake (limit : Nat) (w : World) : Option World :=
  if limit ≤ w.now then none else some { w with now := (w.nextTimer limit).getD limit }

/-- The most actions that are taken in one wait. -/
def patience : Nat := 1000000

/-- How long a wait lasts at most, in milliseconds. -/
def longestWait : Nat := 5000

/-- Waits until a condition holds: takes the first possible action as long as there is one, and
otherwise lets time pass. -/
def wait (w : World) (condition : World → Bool) : World :=
  runUntil next (wake (w.now + longestWait)) condition patience w

/-! ### Calls of users -/

/-- What a call comes to: a result, and the world after it. -/
abbrev Call := Except Fault Unit × World

/-- The result and the world of a call that notes something and may fail. -/
def called (w : World) (id : Nat) : Except Fault (List Notice × Machine) → Call
  | .ok (notices, machine) => (.ok (), (w.setMachine id machine).note notices)
  | .error fault => (.error fault, w)

/-- Gives a connector its sink. -/
def setReceiver (w : World) (id : Nat) (receiver : Receiver) (machine : Machine) : Call :=
  match machine with
  | .server s => w.called id ((s.setReceiver receiver).map fun s => ([], .server s))
  | .client c => w.called id ((c.setReceiver receiver).map fun c => ([], .client c))
  | .pool r => w.called id (.ok ([], .pool r))

/-- Starts a connector. -/
def start (w : World) (id : Nat) (machine : Machine) : Call :=
  match machine with
  | .server s =>
    match s.start w.network with
    | (notices, .ok (s, network)) =>
      (.ok (), ({ w with network }.setMachine id (.server s)).note notices)
    | (notices, .error fault) => (.error fault, w.note notices)
  | .client c => w.called id (c.start.map fun c => ([], .client c))
  | .pool r => w.called id (.ok ([], .pool r))

/-- Sends a message through a connector. -/
def send (w : World) (id : Nat) (message : Message) (machine : Machine) : Call :=
  match machine with
  | .server s => w.called id ((s.send message).map fun (notices, s) => (notices, .server s))
  | .client c => w.called id ((c.send message).map fun (notices, c) => (notices, .client c))
  | .pool r =>
    let (notices, r) := r.submit message
    w.called id (.ok (notices, .pool r))

/-- The world after something that ends connections. -/
def ended (w : World) (id : Nat) (result : List Notice × Machine × Network) : World :=
  ({ w with network := result.2.2 }.setMachine id result.2.1).note result.1

/-- Stops a connector. -/
def stop (w : World) (id : Nat) (machine : Machine) : World :=
  match machine with
  | .server s =>
    let (notices, s, network) := s.stop w.network
    w.ended id (notices, .server s, network)
  | .client c =>
    let (notices, c, network) := c.stop w.network
    w.ended id (notices, .client c, network)
  | .pool r => w.setMachine id (.pool r.close)

/-- Stops a connector for good. -/
def destroy (w : World) (id : Nat) (machine : Machine) : World :=
  match machine with
  | .server s =>
    let (notices, s, network) := s.destroy w.network
    w.ended id (notices, .server s, network)
  | .client c =>
    let (notices, c, network) := c.destroy w.network
    w.ended id (notices, .client c, network)
  | .pool r => w.setMachine id (.pool r.close)

end World

end Framewire
