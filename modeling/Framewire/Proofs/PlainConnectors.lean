/-
**What connectors do whose sinks take every message.**

A *plain* connector has run since its only start, and its sink takes every message and sends nothing
back.  As long as none of its connections ends, what it does by itself comes to very little: a
handler that reads or writes goes on, a message moves to the queue or out of it, and a client that
sends to one destination has one slot, which waits, dials and is connected.

Main definitions:

* `Server.plain`, `Client.plain` — plain connectors;
* `Pool.solo` — a pool with one slot;
* `Network.connected` — a network with a new connection.

Main results:

* `Pool.submit_solo`, `Pool.step_dial_solo`, `Pool.step_dialed_solo`, `Pool.step_write_solo` — what
  happens to the one slot;
* `Server.react_plain`, `Client.react_plain` — a handler goes on;
* `Server.deliver_plain`, `Client.deliver_plain` — the sink takes a message;
* `World.act_read_of_selecting`, `World.act_write_of_selecting`, `World.react_of_going` — what a
  handler does in a world, in which its connector is replaced;
* `Program.startConnector_client` — what the start of a client comes to.
-/

import Framewire.Proofs.ConnectionViews
import Framewire.Proofs.Usage

set_option autoImplicit false

namespace Framewire

/-! ### A pool with one slot -/

namespace Pool

variable {α : Type} {destination : Endpoint} {queue : List α} {phase : Phase α} {payload : α}

/-- A pool with one slot, for one destination. -/
def solo (destination : Endpoint) (queue : List α) (phase : Phase α) : Pool α where
  slots := Directory.empty.insert destination 1
  tasks := [{ id := 1, destination, queue, phase }]
  nextId := 2

theorem get?_solo (destination : Endpoint) (queue : List α) (phase : Phase α) :
    (solo destination queue phase).slots.get? destination = some 1 := by
  rw [solo, Directory.get?_insert, if_pos rfl]

theorem task?_solo (destination : Endpoint) (queue : List α) (phase : Phase α) (id : Nat) :
    (solo destination queue phase).task? id =
      if id = 1 then some { id := 1, destination, queue, phase } else none := by
  by_cases h : id = 1
  · subst h
    rfl
  · simp [task?, solo, h, Ne.symm h]

theorem isCurrent_solo (destination : Endpoint) (queue : List α) (phase : Phase α) :
    (solo destination queue phase).isCurrent 1 = true := by
  rw [isCurrent, task?_solo, if_pos rfl]
  simp [get?_solo]

/-- A payload goes to the queue of the slot. -/
theorem submit_solo (destination : Endpoint) (queue : List α) (phase : Phase α) (payload : α) :
    (solo destination queue phase).submit destination payload =
      (solo destination (queue ++ [payload]) phase, [.queued destination 1 payload]) := by
  have haccepts : (solo destination queue phase).accepts 1 = true := rfl
  rw [submit, submitAttempts, submitWithin, slotFor, get?_solo]
  simp only [haccepts, if_true]
  rfl

theorem step_dial_solo (destination : Endpoint) (first : α) (queue : List α) :
    (solo destination (first :: queue) .waiting).step (.dial 1) =
      (solo destination queue (.dialing first), [.dialed destination 1 first]) := rfl

theorem step_dialed_solo (destination : Endpoint) (first : α) (queue : List α) :
    (solo destination queue (.dialing first)).step (.dialed 1 true) =
      (solo destination queue .connected, [.written destination 1 first]) := rfl

theorem step_write_solo (destination : Endpoint) (payload : α) (queue : List α) :
    (solo destination (payload :: queue) .connected).step (.write 1 true) =
      (solo destination queue .connected, [.written destination 1 payload]) := rfl

/-- The connection of the slot ends. -/
theorem step_finish_solo (destination : Endpoint) (queue : List α) :
    (solo destination queue .connected).step (.finish 1) = (solo destination queue .ending, []) :=
  rfl

/-- A slot with an empty queue is evicted, and none is left. -/
theorem step_evict_solo (destination : Endpoint) :
    (solo destination ([] : List α) .ending).step (.evict 1) = ({ nextId := 2 }, []) := by
  have hunlink : (solo destination ([] : List α) .ending).unlink destination 1 =
      { solo destination ([] : List α) .ending with slots := .empty } := by
    rw [unlink, get?_solo, if_pos rfl]
    simp [solo, Directory.insert, Directory.erase, Directory.empty]
  change (solo destination ([] : List α) .ending).evict 1 = _
  rw [evict, task?_solo, if_pos rfl]
  dsimp only
  rw [hunlink]
  rfl

end Pool

/-! ### New connections -/

namespace Network

variable {n : Network} {id listener : Nat} {dialed : Endpoint}

/-- The own end of the next connection to an endpoint. -/
def nextAddress (n : Network) (dialed : Endpoint) : Endpoint :=
  .ofIp (n.host.port n.given) (ownIp dialed.ip)

/-- The network after a connection to a listener was made, of which the number of the dialing end is
given, and a first payload was written. -/
def connected (n : Network) (id listener : Nat) (dialed : Endpoint) (first : Bytes) : Network :=
  (n.takePort.2.connect listener (n.nextAddress dialed) dialed).2.modifySocket (id + 1)
    fun s => { s with arrived := s.arrived ++ first }

theorem dial_eq (hsockets : n.sockets.length = id) (hobstacle : n.host.obstacle = none)
    (hsilent : dialed ∉ n.silent) (hreach : n.listenerAt? dialed = some listener) :
    n.dial dialed =
      (.connected id, (n.takePort.2.connect listener (n.nextAddress dialed) dialed).2) := by
  rw [dial, hobstacle, hreach, ← hsockets]
  simp only [List.contains_eq_mem, hsilent, decide_false, Bool.false_eq_true, if_false]
  rfl

/-- What is written first arrives at the other end. -/
theorem write_connect (hsockets : n.sockets.length = id) (listener : Nat) (dialed : Endpoint)
    (first : Bytes) :
    (n.takePort.2.connect listener (n.nextAddress dialed) dialed).2.write id first =
      (.complete, n.connected id listener dialed first) := by
  subst hsockets
  have hsocket := socket?_connect n.takePort.2 listener (n.nextAddress dialed) dialed
  have hnear := (hsocket n.sockets.length).trans (if_pos rfl)
  have hfar := (hsocket (n.sockets.length + 1)).trans
    ((if_neg (Nat.succ_ne_self _)).trans (if_pos rfl))
  exact write_of_open hnear rfl rfl hfar rfl first

/-- The sockets of a new connection; the others are as they were. -/
theorem socket?_connected (hsockets : n.sockets.length = id) (listener : Nat) (dialed : Endpoint)
    (first : Bytes) (i : Nat) :
    (n.connected id listener dialed first).socket? i =
      if i = id then some { here := n.nextAddress dialed, there := dialed, twin := id + 1 }
      else if i = id + 1 then
        some { here := dialed, there := n.nextAddress dialed, twin := id, arrived := first }
      else n.socket? i := by
  have hsockets : n.takePort.2.sockets.length = id := hsockets
  rw [connected, socket?_modifySocket, socket?_connect, hsockets]
  by_cases hnear : i = id
  · subst hnear
    rw [if_neg (Nat.succ_ne_self i), if_pos rfl, if_pos rfl]
  · by_cases hfar : i = id + 1
    · subst hfar
      rw [if_pos rfl, if_neg hnear, if_pos rfl, if_neg hnear, if_pos rfl]
      rfl
    · rw [if_neg (Ne.symm hfar), if_neg hnear, if_neg hfar, if_neg hnear, if_neg hfar]
      rfl

theorem listenerAt?_connected (n : Network) (id listener : Nat) (dialed : Endpoint) (first : Bytes)
    (address : Endpoint) :
    (n.connected id listener dialed first).listenerAt? address = n.listenerAt? address := by
  change (n.takePort.2.connect listener _ dialed).2.listenerAt? address = _
  rw [connect]
  exact listenerAt?_modifyListener _ listener
    (f := fun l => { l with backlog := l.backlog ++ [_] }) (fun _ => rfl) address

theorem backlog_connected (hsockets : n.sockets.length = id)
    (hlistener : (n.listener? listener).isSome = true) (dialed : Endpoint) (first : Bytes) :
    (n.connected id listener dialed first).backlog listener = n.backlog listener ++ [id + 1] := by
  have hsockets : n.takePort.2.sockets.length = id := hsockets
  change (n.takePort.2.connect listener _ dialed).2.backlog listener = _
  rw [backlog_connect (n := n.takePort.2) hlistener, hsockets]
  rfl

end Network

/-! ### Handlers that go on -/

theorem Handler.react_read {h : Handler} {now : Nat} {chunk : Bytes} (hchunk : chunk ≠ []) :
    h.react now (.read chunk) = { handler := h.receive now chunk } := by
  obtain ⟨byte, rest, rfl⟩ := List.exists_cons_of_ne_nil hchunk
  rfl

theorem Handler.react_written (h : Handler) (now : Nat) (payload : Bytes) :
    h.react now (.payload payload .complete) =
      { handler := { h with timer := h.timer.touch now }, written := payload } := by
  cases payload <;> rfl

/-! ### Plain servers -/

namespace Server

variable {config : ServerConfig} {address : Endpoint} {registry : Registry} {hub : Hub} {id : Nat}
  {a : Attached}

/-- A running server whose sink takes every message. -/
def plain (config : ServerConfig) (address : Endpoint) (registry : Registry) (hub : Hub) :
    Server where
  config := config
  life := { sink := some {}, running := some ⟨address, 0, hub⟩ }
  registry := registry

theorem react_plain (ha : hub.attached? id = some a) {now : Nat} {stimulus : Stimulus}
    (hended : (a.handler.react now stimulus).ended = none) :
    (Machine.server (plain config address registry hub)).react id now stimulus =
      some (a.handler.react now stimulus, (a.handler.react now stimulus).notices,
        .server (plain config address registry
          (hub.setHandler id (a.handler.react now stimulus).handler))) := by
  simp [Machine.react, react, plain, Hub.react, ha, hended, Lifecycle.modify]

theorem deliver_plain {message : Message} {rest : List Message}
    (hqueue : hub.queue.queue = message :: rest) :
    (Machine.server (plain config address registry hub)).deliver none =
      some (message, none, [], .server (plain config address registry
        { hub with queue := hub.queue.deliver fun _ => none })) := by
  simp [Machine.deliver, deliver, plain, queue?, hqueue, setQueue, Hub.setQueue, Lifecycle.modify]

theorem deliver_plain_of_nil (hqueue : hub.queue.queue = []) :
    (Machine.server (plain config address registry hub)).deliver none = none := by
  simp [Machine.deliver, deliver, plain, queue?, hqueue]

/-- The server runs for the first time. -/
theorem deliver_plain_earlier (earlier : Nat) :
    (Machine.server (plain config address registry hub)).deliver (some earlier) = none := by
  simp [Machine.deliver, deliver, plain, queue?]

theorem dispatch_plain (id : Nat) :
    (Machine.server (plain config address registry hub)).dispatch id =
      (hub.dispatch id).map fun hub => .server (plain config address registry hub) := by
  change Option.map _ ((hub.dispatch id).bind _) = _
  cases hub.dispatch id <;> rfl

end Server

/-! ### Plain clients -/

namespace Client

variable {config : ClientConfig} {r : Client.Round} {id now : Nat} {a : Attached}
  {destination : Endpoint} {payload first : Bytes} {queue : List Bytes}

/-- A running client whose sink takes every message. -/
def plain (config : ClientConfig) (r : Client.Round) : Client where
  config := config
  life := { sink := some {}, running := some r }

theorem react_plain (ha : r.hub.attached? id = some a) {chunk : Bytes}
    (hchunk : chunk ≠ []) :
    (Machine.client (plain config r)).react id now (.read chunk) =
      some ({ handler := a.handler.receive now chunk }, [], .client (plain config
        { r with hub := r.hub.setHandler id (a.handler.receive now chunk) })) := by
  have hreact : a.handler.react now (.read chunk) = { handler := a.handler.receive now chunk } :=
    Handler.react_read hchunk
  simp [Machine.react, plain, Round.react, Hub.react, ha, hreact, Machine.setRound]

theorem react_plain_payload (ha : r.hub.attached? 1 = some a)
    (hpool : r.pool = Pool.solo destination (payload :: queue) .connected) :
    (Machine.client (plain config r)).react 1 now (.payload payload .complete) =
      some ({ handler := { a.handler with timer := a.handler.timer.touch now }, written := payload },
        [], .client (plain config { r with
          pool := Pool.solo destination queue .connected
          hub := r.hub.setHandler 1 { a.handler with timer := a.handler.timer.touch now } })) := by
  have hreact := Handler.react_written a.handler now payload
  have hstep := Pool.step_write_solo destination payload queue
  simp [Machine.react, plain, Round.react, Round.step, Hub.react, ha, hreact, hpool, hstep,
    Machine.setRound]

/-- The handler of the slot finds the end of what comes to it. -/
theorem react_plain_end (ha : r.hub.attached? 1 = some a)
    (hpool : r.pool = Pool.solo destination queue .connected) :
    ∃ notices, (Machine.client (plain config r)).react 1 now (.read []) =
      some (a.handler.react now (.read []), notices, .client (plain config { r with
        pool := Pool.solo destination queue .ending
        hub := r.hub.detach 1 })) := by
  have hended : (a.handler.react now (.read [])).ended = some (.ok .peerClosed) := rfl
  have hstep := Pool.step_finish_solo destination queue
  simp [Machine.react, plain, Round.react, Round.step, Hub.react, ha, hended, hpool, hstep,
    Machine.setRound]

theorem deliver_plain {message : Message} {rest : List Message}
    (hqueue : r.hub.queue.queue = message :: rest) :
    (Machine.client (plain config r)).deliver none = some (message, none, [], .client (plain config
      { r with hub := { r.hub with queue := r.hub.queue.deliver fun _ => none } })) := by
  simp [Machine.deliver, deliver, plain, queue?, hqueue, setQueue, Hub.setQueue, Lifecycle.modify]

theorem deliver_plain_of_nil (hqueue : r.hub.queue.queue = []) :
    (Machine.client (plain config r)).deliver none = none := by
  simp [Machine.deliver, deliver, plain, queue?, hqueue]

/-- The client runs for the first time. -/
theorem deliver_plain_earlier (earlier : Nat) :
    (Machine.client (plain config r)).deliver (some earlier) = none := by
  simp [Machine.deliver, deliver, plain, queue?]

theorem dispatch_plain (id : Nat) :
    (Machine.client (plain config r)).dispatch id =
      (r.hub.dispatch id).map fun hub => .client (plain config { r with hub }) := by
  change (r.hub.dispatch id).bind _ = _
  cases r.hub.dispatch id <;> rfl

theorem nextPayload_plain (hpool : r.pool = Pool.solo destination (payload :: queue) .connected) :
    (Machine.client (plain config r)).nextPayload 1 = .payload payload := by
  have htask := Pool.task?_solo destination (payload :: queue) .connected 1
  simp [Machine.nextPayload, plain, Machine.nextPayload.ofRound, hpool, htask]

theorem nextPayload_plain_of_nil (hpool : r.pool = Pool.solo destination [] .connected) :
    (Machine.client (plain config r)).nextPayload 1 = .empty := by
  have htask := Pool.task?_solo destination ([] : List Bytes) .connected 1
  have hcurrent := Pool.isCurrent_solo destination ([] : List Bytes) .connected
  simp [Machine.nextPayload, plain, Machine.nextPayload.ofRound, hpool, htask, hcurrent]

namespace Round

/-! #### The slot of a client -/

theorem submit_of_empty (hpool : r.pool = {}) (message : Message) :
    r.submit message =
      ([], { r with pool := Pool.solo message.remote [message.payload] .waiting }) := by
  rw [submit, step, hpool]
  rfl

theorem submit_of_solo {phase : Pool.Phase Bytes}
    (hpool : r.pool = Pool.solo destination queue phase) (payload : Bytes) :
    r.submit ⟨payload, destination⟩ =
      ([], { r with pool := Pool.solo destination (queue ++ [payload]) phase }) := by
  have hsubmit := Pool.submit_solo destination queue phase payload
  rw [submit, step, hpool]
  simp only [Pool.step, hsubmit]
  rfl

theorem dial_of_solo (hpool : r.pool = Pool.solo destination (first :: queue) .waiting) (now : Nat) :
    r.dial 1 now = some { r with
      pool := Pool.solo destination queue (.dialing first)
      dials := (1, now + r.connectTimeout) :: r.dials } := by
  have htask := Pool.task?_solo destination (first :: queue) .waiting 1
  have hstep := Pool.step_dial_solo destination first queue
  simp [dial, hpool, htask, step, hstep]

/-- A dial that succeeds connects the slot. -/
theorem settle_of_solo (hpool : r.pool = Pool.solo destination queue (.dialing first)) {socket : Nat}
    {n n' n'' : Network} (hdial : n.dial destination = (.connected socket, n'))
    (hwrite : n'.write socket first = (.complete, n'')) (now : Nat) :
    r.settle 1 now n = some ([], { r with
      pool := Pool.solo destination queue .connected
      hub := r.hub.attach 1 socket (.new destination r.idleTimeout now)
      dials := (r.undial 1).dials }, n'') := by
  have htask := Pool.task?_solo destination queue (.dialing first) 1
  have hstep := Pool.step_dialed_solo destination first queue
  have hreact := Handler.react_written (Handler.new destination r.idleTimeout now) now first
  simp [settle, hpool, htask, hdial, hwrite, hreact, step, undial, hstep]
  rfl

/-- A dial that reaches a listener connects the slot. -/
theorem settle_connected (hpool : r.pool = Pool.solo destination queue (.dialing first))
    {n : Network} {socket listener : Nat} (hsockets : n.sockets.length = socket)
    (hobstacle : n.host.obstacle = none) (hsilent : destination ∉ n.silent)
    (hreach : n.listenerAt? destination = some listener) (now : Nat) :
    r.settle 1 now n = some ([], { r with
      pool := Pool.solo destination queue .connected
      hub := r.hub.attach 1 socket (.new destination r.idleTimeout now)
      dials := (r.undial 1).dials }, n.connected socket listener destination first) :=
  settle_of_solo hpool (Network.dial_eq hsockets hobstacle hsilent hreach)
    (Network.write_connect hsockets listener destination first) now

/-- A slot whose connection has ended is evicted. -/
theorem evict_of_solo (hpool : r.pool = Pool.solo destination [] .ending) :
    r.evict 1 = some ([], { r with pool := { nextId := 2 } }) := by
  have htask := Pool.task?_solo destination ([] : List Bytes) .ending 1
  have hstep := Pool.step_evict_solo (α := Bytes) destination
  simp [evict, hpool, htask, step, hstep, poolNotices]

/-- Whatever happens to a slot happens to the one that there is. -/
theorem eq_one_of_task? {phase : Pool.Phase Bytes}
    (hpool : r.pool = Pool.solo destination queue phase) {slot : Nat} {t : Pool.Task Bytes}
    (ht : r.pool.task? slot = some t) :
    slot = 1 ∧ t = { id := 1, destination, queue, phase } := by
  rw [hpool, Pool.task?_solo] at ht
  split at ht
  · next h => exact ⟨h, (Option.some.inj ht).symm⟩
  · simp at ht

end Round

end Client

/-! ### What handlers do in a world -/

namespace World

variable {w : World} {node id most : Nat} {n : Node} {hub : Hub} {a : Attached} {machine : Machine}
  {s : Socket} {network : Network} {stimulus : Stimulus}

theorem selecting?_eq (hn : w.node? node = some n) (hhub : n.machine.hub? = some hub) (id : Nat) :
    w.selecting? node id = (hub.selecting? id).map fun a => (n.machine, a) := by
  rw [selecting?, hn]
  change (n.machine.hub?).bind _ = _
  rw [hhub]
  change (hub.selecting? id).bind _ = _
  cases hub.selecting? id <;> rfl

/-- A handler that goes on leaves its connector in another state. -/
theorem react_of_going (hn : w.node? node = some n) {socket : Nat} {reaction : Reaction}
    {notices : List Notice} {machine' : Machine}
    (hreact : machine.react id w.now stimulus = some (reaction, notices, machine'))
    (hended : reaction.ended = none) :
    w.react node id socket machine network stimulus =
      some (w.set node { n with machine := machine' } network (notices.reverse ++ w.notices)) := by
  simp only [react, hreact, hended, Option.bind_eq_bind, Option.bind_some, Option.isSome_none,
    Bool.false_eq_true, if_false]
  exact congrArg some (note_setMachine hn machine' network notices)

/-- A handler that ends leaves its connector in another state, and its socket is closed. -/
theorem react_of_ended (hn : w.node? node = some n) {socket : Nat} {reaction : Reaction}
    {notices : List Notice} {machine' : Machine}
    (hreact : machine.react id w.now stimulus = some (reaction, notices, machine'))
    (hended : reaction.ended.isSome = true) :
    w.react node id socket machine network stimulus =
      some (w.set node { n with machine := machine' } (network.close socket)
        (notices.reverse ++ w.notices)) := by
  simp only [react, hreact, hended, Option.bind_eq_bind, Option.bind_some, if_true]
  exact congrArg some (note_setMachine hn machine' (network.close socket) notices)

/-- A handler reads what has arrived at its socket. -/
theorem act_read_of_arrived (hselecting : w.selecting? node id = some (machine, a))
    (hs : w.network.socket? a.socket = some s) (harrived : s.arrived ≠ []) (most : Nat) :
    w.act (.read node id most) =
      if s.arrived.take most = [] then none
      else w.react node id a.socket machine
        (w.network.modifySocket a.socket fun s => { s with arrived := s.arrived.drop most })
        (.read (s.arrived.take most)) := by
  simp only [act, hselecting, Option.bind_eq_bind, Option.bind_some]
  rw [Network.read_of_arrived hs harrived]
  cases hchunk : s.arrived.take most with
  | nil => rw [if_pos rfl]
  | cons byte chunk => rw [if_neg (by simp)]

/-- A handler that has read everything finds the end. -/
theorem act_read_of_finished (hselecting : w.selecting? node id = some (machine, a))
    (hs : w.network.socket? a.socket = some s) (harrived : s.arrived = [])
    (hending : s.ending = some .finished) (most : Nat) :
    w.act (.read node id most) = w.react node id a.socket machine w.network (.read []) := by
  simp only [act, hselecting, Option.bind_eq_bind, Option.bind_some]
  rw [Network.read_of_empty hs harrived, hending]

/-- A handler reads what has arrived at a socket whose stream has not ended, if it reads anything. -/
theorem act_read_of_selecting (hselecting : w.selecting? node id = some (machine, a))
    (hs : w.network.socket? a.socket = some s) (hending : s.ending = none) (most : Nat) :
    w.act (.read node id most) =
      if s.arrived.take most = [] then none
      else w.react node id a.socket machine
        (w.network.modifySocket a.socket fun s => { s with arrived := s.arrived.drop most })
        (.read (s.arrived.take most)) := by
  by_cases harrived : s.arrived = []
  · simp only [act, hselecting, Option.bind_eq_bind, Option.bind_some]
    rw [Network.read_of_empty hs harrived, hending, harrived, List.take_nil, if_pos rfl]
  · exact act_read_of_arrived hselecting hs harrived most

/-- A handler writes the payload that it finds in its queue, if it finds any. -/
theorem act_write_of_selecting (hselecting : w.selecting? node id = some (machine, a))
    {payload : Bytes} (hpayload : machine.nextPayload id = .payload payload)
    (hwrite : w.network.write a.socket payload = (.complete, network)) :
    w.act (.write node id) =
      w.react node id a.socket (machine.takePayload id) network (.payload payload .complete) := by
  simp only [act, hselecting, Option.bind_eq_bind, Option.bind_some, hpayload, hwrite]

theorem act_write_of_empty (hselecting : w.selecting? node id = some (machine, a))
    (hempty : machine.nextPayload id = .empty) : w.act (.write node id) = none := by
  simp only [act, hselecting, Option.bind_eq_bind, Option.bind_some, hempty]

theorem act_dispatch_eq (hn : w.node? node = some n) (id : Nat) :
    w.act (.dispatch node id) = (n.machine.dispatch id).map fun machine =>
      w.set node { n with machine } w.network w.notices := by
  simp only [act, hn, Option.bind_eq_bind, Option.bind_some]
  cases n.machine.dispatch id with
  | none => rfl
  | some machine => exact congrArg some (note_setMachine hn machine w.network [])

theorem act_deliver_of_taken (hn : w.node? node = some n) {message : Message}
    {notices : List Notice} {machine' : Machine}
    (hdeliver : n.machine.deliver none = some (message, none, notices, machine')) :
    w.act (.deliver node) = some (w.set node ⟨machine', message :: n.received⟩ w.network
      (notices.reverse ++ w.notices)) := by
  simp only [act, deliver, hn, Option.bind_eq_bind, Option.bind_some, hdeliver]
  exact congrArg some (note_modify hn _ notices)

theorem act_deliver_of_none (hn : w.node? node = some n) (hdeliver : n.machine.deliver none = none) :
    w.act (.deliver node) = none := by
  simp only [act, deliver, hn, Option.bind_eq_bind, Option.bind_some, hdeliver, Option.bind_none]

theorem act_drain_of_none (hn : w.node? node = some n) {earlier : Nat}
    (hdeliver : n.machine.deliver (some earlier) = none) : w.act (.drain node earlier) = none := by
  simp only [act, deliver, hn, Option.bind_eq_bind, Option.bind_some, hdeliver, Option.bind_none]

/-- A plain server takes in the connection that has waited longest. -/
theorem act_accept_plain {config : ServerConfig} {own : Endpoint} {registry : Registry}
    {received : List Message}
    (hn : w.node? 0 = some ⟨.server (.plain config own registry hub), received⟩) {socket : Nat}
    (haccept : w.network.accept 0 = some (socket, network)) (hs : network.socket? socket = some s) :
    ∃ notices, w.act (.accept 0) = some (w.set 0 ⟨.server (.plain config own
      (registry.enrol s.there).2
      (hub.attach registry.nextId socket (.new s.there config.idleTimeout w.now))), received⟩
      network notices) := by
  refine ⟨(registry.enrol s.there).1.reverse ++ w.notices, ?_⟩
  simp only [act, hn, Option.bind_eq_bind, Option.bind_some]
  change (w.network.accept 0).bind _ = _
  rw [haccept, Option.bind_some, hs]
  exact congrArg some (note_setMachine hn _ network _)

/-! #### What the slots of a client do in a world -/

section Rounds

variable {r : Client.Round}

theorem round?_eq (hn : w.node? node = some n) (hr : n.machine.round? = some r) :
    w.round? node = some (n.machine, r) := by
  rw [round?, hn]
  change (n.machine.round?).bind _ = _
  rw [hr]
  rfl

theorem act_dial_eq (hn : w.node? node = some n) (hr : n.machine.round? = some r) (slot : Nat) :
    w.act (.dial node slot) = (r.dial slot w.now).map fun r' =>
      w.set node { n with machine := n.machine.setRound r' } w.network w.notices := by
  simp only [act, round?_eq hn hr, Option.bind_eq_bind, Option.bind_some]
  cases r.dial slot w.now with
  | none => rfl
  | some r' => exact congrArg some (note_setMachine hn _ w.network [])

theorem act_settle_eq (hn : w.node? node = some n) (hr : n.machine.round? = some r) (slot : Nat) :
    w.act (.settle node slot) = (r.settle slot w.now w.network).map fun result =>
      w.set node { n with machine := n.machine.setRound result.2.1 } result.2.2
        (result.1.reverse ++ w.notices) := by
  simp only [act, round?_eq hn hr, Option.bind_eq_bind, Option.bind_some]
  cases r.settle slot w.now w.network with
  | none => rfl
  | some result => exact congrArg some (note_setMachine hn _ result.2.2 result.1)

theorem act_evict_eq (hn : w.node? node = some n) (hr : n.machine.round? = some r) (slot : Nat) :
    w.act (.evict node slot) = (r.evict slot).map fun result =>
      w.set node { n with machine := n.machine.setRound result.2 } w.network
        (result.1.reverse ++ w.notices) := by
  simp only [act, round?_eq hn hr, Option.bind_eq_bind, Option.bind_some]
  cases r.evict slot with
  | none => rfl
  | some result => exact congrArg some (note_setMachine hn _ w.network result.1)

theorem act_evict_of_none (hn : w.node? node = some n) (hr : n.machine.round? = some r) {slot : Nat}
    (hevict : r.evict slot = none) : w.act (.evict node slot) = none := by
  rw [act_evict_eq hn hr, hevict, Option.map_none]

end Rounds

/-! #### What plain connectors are asked to send -/

section Sends

variable {message : Message} {received : List Message}

theorem ask_send_server {config : ServerConfig} {own : Endpoint} {registry registry' : Registry}
    (hn : w.node? node = some ⟨.server (.plain config own registry hub), received⟩)
    (hsend : registry.send message = (true, registry')) :
    (w.ask node (.send message)).2 =
      w.set node ⟨.server (.plain config own registry' hub), received⟩ w.network w.notices := by
  have hserver : (Server.plain config own registry hub).send message =
      .ok ([], .plain config own registry' hub) := by
    simp [Server.send, Server.plain, Lifecycle.admitSend, hsend]
  rw [ask, hn]
  dsimp only [send]
  rw [hserver]
  exact note_setMachine hn _ w.network []

theorem ask_send_client {config : ClientConfig} {r r' : Client.Round}
    (hn : w.node? node = some ⟨.client (.plain config r), received⟩)
    (hsubmit : r.submit message = ([], r')) :
    (w.ask node (.send message)).2 =
      w.set node ⟨.client (.plain config r'), received⟩ w.network w.notices := by
  have hclient : (Client.plain config r).send message = .ok ([], .plain config r') := by
    simp [Client.send, Client.plain, Lifecycle.admitSend, hsubmit]
  rw [ask, hn]
  dsimp only [send]
  rw [hclient]
  exact note_setMachine hn _ w.network []

end Sends

theorem node?_add (w : World) (machine : Machine) :
    (w.add machine).node? w.nodes.length = some { machine } := by
  rw [node?, add, List.getElem?_append_right (Nat.le_refl _), Nat.sub_self]
  rfl

/-- The connector that was added last is replaced. -/
theorem setMachine_add (w : World) (machine machine' : Machine) :
    (w.add machine).setMachine w.nodes.length machine' = w.add machine' := by
  rw [setMachine, modify_eq_set (node?_add w machine)]
  simp [add]

end World

/-! ### Connectors that are started -/

namespace Program

variable {w : World}

/-- A client that is started has an empty pool. -/
theorem startConnector_client (w : World) (config : ClientConfig) :
    startConnector w (.client (.new config)) {} =
      (SinkQueue.start Client.name config.sinkChannelCapacity.toNat).map fun queue =>
        (w.nodes.length, w.add (.client (.plain config (.new config queue)))) := by
  have hgiven : (w.add (.client (.new config))).setReceiver w.nodes.length {}
      (.client (.new config)) =
      (.ok (), w.add (.client { config, life := { sink := some {} } })) := by
    change (Except.ok (), (World.setMachine _ _ _).note []) = _
    rw [World.setMachine_add]
    rfl
  have hstart : ({ config, life := { sink := some {} } } : Client).start =
      (SinkQueue.start Client.name config.sinkChannelCapacity.toNat).map fun queue =>
        Client.plain config (.new config queue) := by
    rw [Client.start, Client.acquire]
    cases SinkQueue.start Client.name config.sinkChannelCapacity.toNat <;> rfl
  rw [startConnector, hgiven]
  simp only [World.node?_add, Option.map_some, Option.getD_some, World.start, hstart]
  cases SinkQueue.start Client.name config.sinkChannelCapacity.toNat with
  | error fault => rfl
  | ok queue =>
      change Except.ok (w.nodes.length, (World.setMachine _ _ _).note []) = _
      rw [World.setMachine_add]
      rfl

end Program

end Framewire
