/-
**What a running server does by itself.**

In a world in which one server runs, whose sink sends every message back, the network, the registry
and the hub are all that decides what can happen.  An action that is possible is one of eleven
moves: a connection is taken in, a chunk is read, a stream ends, a message goes to the queue or out
of it, a payload is written, and so on.  Whatever is kept by each move is kept by the server.

Main definitions:

* `Site`, `Serving` — what a running server works on; a world in which such a server runs;
* `Site.keep`, `Site.drop` — a connection goes on with another handler, or ends;
* `Move` — what an action does to a site.

Main results:

* `Serving.move` — **an action that is possible is a move**;
* `Serving.isSome_accept`, `Serving.isSome_read`, `Serving.isSome_dispatch`, `Serving.isSome_write`,
  `Serving.isSome_deliver` — actions that are possible.
-/

import Framewire.Proofs.ConnectionViews
import Framewire.Proofs.RegistryRouting
import Framewire.World

set_option autoImplicit false

namespace Framewire

/-- What a running server works on. -/
structure Site where
  network : Network
  registry : Registry
  hub : Hub

namespace Site

/-- A connection goes on with another handler. -/
def keep (k : Site) (id : Nat) (handler : Handler) : Site :=
  { k with hub := k.hub.setHandler id handler }

/-- A connection ends. -/
def drop (k : Site) (id socket : Nat) : Site where
  network := k.network.close socket
  registry := (k.registry.withdraw id).2.hangUp id
  hub := k.hub.detach id

end Site

namespace Server

/-- A running server whose sink sends every message back. -/
def echoing (config : ServerConfig) (address : Endpoint) (k : Site) : Server where
  config := config
  life := { sink := some { echoes := true }, running := some ⟨address, 0, k.hub⟩ }
  registry := k.registry

variable {config : ServerConfig} {address : Endpoint} {k : Site} {id : Nat} {a : Attached}

/-- The handler of a connection reacts: the connection goes on, or it ends. -/
theorem react_echoing (config : ServerConfig) (address : Endpoint)
    (ha : k.hub.attached? id = some a) (now : Nat) (stimulus : Stimulus) :
    ∃ notices, (echoing config address k).react id now stimulus =
      some (a.handler.react now stimulus, notices,
        match (a.handler.react now stimulus).ended with
        | none => echoing config address (k.keep id (a.handler.react now stimulus).handler)
        | some _ =>
          { echoing config address k with
            life := { sink := some { echoes := true },
                      running := some ⟨address, 0, k.hub.detach id⟩ }
            registry := (k.registry.withdraw id).2.hangUp id }) := by
  cases hended : (a.handler.react now stimulus).ended with
  | none => simp [react, echoing, Hub.react, ha, hended, Lifecycle.modify, Site.keep]
  | some result => simp [react, echoing, Hub.react, ha, hended, Lifecycle.modify]

/-- The next message goes to the sink, which sends it back. -/
theorem deliver_echoing (config : ServerConfig) (address : Endpoint) {message : Message}
    {rest : List Message} (hqueue : k.hub.queue.queue = message :: rest) :
    ∃ notices, (echoing config address k).deliver none =
      some (message, none, notices,
        echoing config address { k with
          registry := (k.registry.send message).2
          hub := { k.hub with queue := k.hub.queue.deliver fun _ => none } }) := by
  simp [deliver, echoing, queue?, hqueue, setQueue, Hub.setQueue, Lifecycle.modify, send,
    Lifecycle.admitSend]

theorem deliver_echoing_of_nil (hqueue : k.hub.queue.queue = []) :
    (echoing config address k).deliver none = none := by
  simp [deliver, echoing, queue?, hqueue]

/-- The server runs for the first time. -/
theorem deliver_echoing_earlier (config : ServerConfig) (address : Endpoint) (k : Site)
    (earlier : Nat) : (echoing config address k).deliver (some earlier) = none := by
  simp [deliver, echoing, queue?]

end Server

/-- A world in which a server runs on a site, alone. -/
structure Serving (config : ServerConfig) (w : World) (k : Site) : Prop where
  network : w.network = k.network
  nodes : ∃ address received,
    w.nodes = [⟨.server (Server.echoing config address k), received⟩]

/-- What an action does to a site. -/
inductive Move (config : ServerConfig) (now : Nat) (k : Site) : World.Action → Site → Prop where
  | accept {socket : Nat} {network : Network} {remote : Endpoint}
      (haccept : k.network.accept 0 = some (socket, network))
      (hremote : remote = ((network.socket? socket).map (·.there)).getD .unbound) :
      Move config now k (.accept 0)
        { network
          registry := (k.registry.enrol remote).2
          hub := k.hub.attach k.registry.nextId socket (.new remote config.idleTimeout now) }
  | chunk {id most : Nat} {a : Attached} {bytes : Bytes} {network : Network}
      (ha : k.hub.selecting? id = some a)
      (hread : k.network.read a.socket most = (.bytes bytes, network)) (hbytes : bytes ≠ []) :
      Move config now k (.read 0 id most)
        ({ k with network }.keep id (a.handler.receive now bytes))
  | streamEnd {id most : Nat} {a : Attached} {network : Network}
      (ha : k.hub.selecting? id = some a)
      (hread : k.network.read a.socket most = (.ended, network)) :
      Move config now k (.read 0 id most) ({ k with network }.drop id a.socket)
  | readFailed {id most : Nat} {a : Attached} {network : Network} {error : SystemError}
      (ha : k.hub.selecting? id = some a)
      (hread : k.network.read a.socket most = (.failed error, network)) :
      Move config now k (.read 0 id most) ({ k with network }.drop id a.socket)
  | dispatch {id : Nat} {hub : Hub} (hdispatch : k.hub.dispatch id = some hub) :
      Move config now k (.dispatch 0 id) { k with hub }
  | written {id : Nat} {a : Attached} {payload : Bytes} {outcome : WriteOutcome}
      {network : Network} (ha : k.hub.selecting? id = some a)
      (hreceive : (k.registry.receive id).1 = .payload payload)
      (hwrite : k.network.write a.socket payload = (outcome, network))
      (hended : (a.handler.write now payload outcome).ended = none) :
      Move config now k (.write 0 id)
        ({ k with network, registry := (k.registry.receive id).2 }.keep id
          (a.handler.write now payload outcome).handler)
  | writeFailed {id : Nat} {a : Attached} {payload : Bytes} {outcome : WriteOutcome}
      {network : Network} (ha : k.hub.selecting? id = some a)
      (hreceive : (k.registry.receive id).1 = .payload payload)
      (hwrite : k.network.write a.socket payload = (outcome, network))
      (hended : (a.handler.write now payload outcome).ended ≠ none) :
      Move config now k (.write 0 id)
        ({ k with network, registry := (k.registry.receive id).2 }.drop id a.socket)
  | unqueued {id : Nat} {a : Attached} (ha : k.hub.selecting? id = some a)
      (hreceive : (k.registry.receive id).1 = .closed) :
      Move config now k (.write 0 id) (k.drop id a.socket)
  | expired {id : Nat} {a : Attached} (ha : k.hub.selecting? id = some a)
      (hexpired : a.handler.timer.expiredBy now = true) :
      Move config now k (.expire 0 id) (k.drop id a.socket)
  | deliver {message : Message} {rest : List Message}
      (hqueue : k.hub.queue.queue = message :: rest) :
      Move config now k (.deliver 0)
        { k with
          registry := (k.registry.send message).2
          hub := { k.hub with queue := k.hub.queue.deliver fun _ => none } }
  | pass (ms : Nat) : Move config now k (.pass ms) k

namespace Serving

variable {config : ServerConfig} {w w' : World} {k : Site} {node id most : Nat} {a : Attached}
  {action : World.Action}

/-! ### The world of a server -/

theorem node?_zero (h : Serving config w k) :
    ∃ address received,
      w.node? 0 = some ⟨.server (Server.echoing config address k), received⟩ := by
  obtain ⟨address, received, hnodes⟩ := h.nodes
  exact ⟨address, received, by rw [World.node?, hnodes]; rfl⟩

theorem node?_succ (h : Serving config w k) (node : Nat) : w.node? (node + 1) = none := by
  obtain ⟨address, received, hnodes⟩ := h.nodes
  rw [World.node?, hnodes]
  rfl

theorem round?_eq_none (h : Serving config w k) (node : Nat) : w.round? node = none := by
  cases node with
  | zero =>
      obtain ⟨address, received, hnode⟩ := h.node?_zero
      rw [World.round?, hnode]
      rfl
  | succ node => rw [World.round?, h.node?_succ]; rfl

theorem selecting?_eq (h : Serving config w k) (id : Nat) :
    ∃ address, w.selecting? 0 id = (k.hub.selecting? id).map fun a =>
      (.server (Server.echoing config address k), a) := by
  obtain ⟨address, received, hnode⟩ := h.node?_zero
  refine ⟨address, ?_⟩
  rw [World.selecting?, hnode]
  change (k.hub.selecting? id).bind _ = _
  cases k.hub.selecting? id <;> rfl

/-- What looks at a connector looks at the server. -/
theorem of_node? (h : Serving config w k) {f : Node → Option World}
    (hf : (w.node? node).bind f = some w') :
    ∃ address received, node = 0 ∧
      w.nodes = [⟨.server (Server.echoing config address k), received⟩] ∧
      f ⟨.server (Server.echoing config address k), received⟩ = some w' := by
  obtain ⟨address, received, hnodes⟩ := h.nodes
  cases node with
  | zero =>
      rw [World.node?, hnodes] at hf
      exact ⟨address, received, rfl, hnodes, hf⟩
  | succ node => simp [h.node?_succ] at hf

/-- What looks at a handler looks at one that is attached and has handed over all its messages. -/
theorem of_selecting? (h : Serving config w k) {f : Machine × Attached → Option World}
    (hf : (w.selecting? node id).bind f = some w') :
    ∃ address a, node = 0 ∧ k.hub.selecting? id = some a ∧ k.hub.attached? id = some a ∧
      f (.server (Server.echoing config address k), a) = some w' := by
  cases node with
  | zero =>
      obtain ⟨address, hselecting⟩ := h.selecting?_eq id
      rw [hselecting] at hf
      obtain ⟨_, hmap, hf⟩ := Option.bind_eq_some_iff.1 hf
      obtain ⟨a, ha, rfl⟩ := Option.map_eq_some_iff.1 hmap
      exact ⟨address, a, rfl, ha, (Hub.selecting?_eq_some_iff.1 ha).1, hf⟩
  | succ node => simp [World.selecting?, h.node?_succ] at hf

/-- The server of a world is replaced. -/
theorem set (h : Serving config w k) (address : Endpoint) (k' : Site) (notices : List Notice) :
    Serving config
      (({ w with network := k'.network }.setMachine 0
        (.server (Server.echoing config address k'))).note notices) k' := by
  obtain ⟨_, received, hnodes⟩ := h.nodes
  refine ⟨rfl, address, received, ?_⟩
  change w.nodes.modify 0 _ = _
  rw [hnodes]
  rfl

/-- A handler reacts: its connection goes on, or it ends. -/
theorem react (h : Serving config w k) (ha : k.hub.attached? id = some a) (network : Network)
    (registry : Registry) (stimulus : Stimulus) (address : Endpoint) :
    ∃ w', w.react 0 id a.socket
        (.server (Server.echoing config address { k with registry })) network stimulus = some w' ∧
      Serving config w' (match (a.handler.react w.now stimulus).ended with
        | none => { k with network, registry }.keep id (a.handler.react w.now stimulus).handler
        | some _ => { k with network, registry }.drop id a.socket) := by
  obtain ⟨notices, hreact⟩ :=
    Server.react_echoing (k := { k with registry }) config address ha w.now stimulus
  refine ⟨_, by simp only [World.react, Machine.react, hreact]; rfl, ?_⟩
  cases hended : (a.handler.react w.now stimulus).ended with
  | none => exact h.set address (Site.keep { k with network, registry } id _) notices
  | some result => exact h.set address (Site.drop { k with network, registry } id a.socket) notices

/-! ### Actions are moves -/

theorem accept_move (h : Serving config w k) (hact : w.act (.accept node) = some w') :
    ∃ k', Serving config w' k' ∧ Move config w.now k (.accept node) k' := by
  obtain ⟨address, received, rfl, -, hact⟩ := h.of_node? hact
  change (w.network.accept 0).bind _ = _ at hact
  obtain ⟨⟨socket, network⟩, haccept, hact⟩ := Option.bind_eq_some_iff.1 hact
  rw [h.network] at haccept
  obtain rfl := Option.some.inj hact
  exact ⟨_, h.set address { network, registry := _, hub := _ } _, .accept haccept rfl⟩

theorem read_move (h : Serving config w k) (hact : w.act (.read node id most) = some w') :
    ∃ k', Serving config w' k' ∧ Move config w.now k (.read node id most) k' := by
  obtain ⟨address, a, rfl, ha, hattached, hact⟩ := h.of_selecting? hact
  rw [h.network] at hact
  dsimp only at hact
  split at hact
  · next byte chunk network hread =>
    obtain ⟨_, hreact, hserving⟩ :=
      h.react hattached network k.registry (.read (byte :: chunk)) address
    obtain rfl := Option.some.inj (hreact.symm.trans hact)
    exact ⟨_, hserving, .chunk ha hread (by simp)⟩
  · next network hread =>
    obtain ⟨_, hreact, hserving⟩ := h.react hattached network k.registry (.read []) address
    obtain rfl := Option.some.inj (hreact.symm.trans hact)
    exact ⟨_, hserving, .streamEnd ha hread⟩
  · next error network hread =>
    obtain ⟨_, hreact, hserving⟩ :=
      h.react hattached network k.registry (.readFailed error) address
    obtain rfl := Option.some.inj (hreact.symm.trans hact)
    exact ⟨_, hserving, .readFailed ha hread⟩
  · simp at hact

theorem dispatch_move (h : Serving config w k) (hact : w.act (.dispatch node id) = some w') :
    ∃ k', Serving config w' k' ∧ Move config w.now k (.dispatch node id) k' := by
  obtain ⟨address, received, rfl, -, hact⟩ := h.of_node? hact
  obtain ⟨machine, hmachine, hact⟩ := Option.bind_eq_some_iff.1 hact
  obtain ⟨s, hs, rfl⟩ := Option.map_eq_some_iff.1 hmachine
  obtain ⟨hub, hdispatch, hs⟩ := Option.bind_eq_some_iff.1 hs
  obtain rfl := Option.some.inj hs
  obtain rfl := Option.some.inj hact
  refine ⟨_, ?_, .dispatch hdispatch⟩
  exact ⟨h.network, (h.set address { k with hub } []).nodes⟩

theorem write_move (h : Serving config w k) (hact : w.act (.write node id) = some w') :
    ∃ k', Serving config w' k' ∧ Move config w.now k (.write node id) k' := by
  obtain ⟨address, a, rfl, ha, hattached, hact⟩ := h.of_selecting? hact
  rw [h.network] at hact
  dsimp only [Machine.nextPayload] at hact
  split at hact
  · next payload hreceive =>
    obtain ⟨⟨outcome, network⟩, hwrite⟩ : ∃ result, k.network.write a.socket payload = result :=
      ⟨_, rfl⟩
    obtain ⟨_, hreact, hserving⟩ := h.react hattached network (k.registry.receive id).2
      (.payload payload outcome) address
    simp only [hwrite] at hact
    obtain rfl := Option.some.inj (hreact.symm.trans hact)
    refine ⟨_, hserving, ?_⟩
    rw [Handler.react]
    cases hended : (a.handler.write w.now payload outcome).ended with
    | none => exact .written ha hreceive hwrite hended
    | some result => exact .writeFailed ha hreceive hwrite (by simp [hended])
  · next hreceive =>
    obtain ⟨_, hreact, hserving⟩ :=
      h.react hattached k.network k.registry .outboundClosed address
    obtain rfl := Option.some.inj (hreact.symm.trans hact)
    exact ⟨_, hserving, .unqueued ha hreceive⟩
  · simp at hact

theorem expire_move (h : Serving config w k) (hact : w.act (.expire node id) = some w') :
    ∃ k', Serving config w' k' ∧ Move config w.now k (.expire node id) k' := by
  obtain ⟨address, a, rfl, ha, hattached, hact⟩ := h.of_selecting? hact
  rw [h.network] at hact
  dsimp only at hact
  split at hact
  · next hexpired =>
    obtain ⟨_, hreact, hserving⟩ := h.react hattached k.network k.registry .expired address
    obtain rfl := Option.some.inj (hreact.symm.trans hact)
    exact ⟨_, hserving, .expired ha hexpired⟩
  · simp at hact

theorem deliver_move (h : Serving config w k) (hact : w.act (.deliver node) = some w') :
    ∃ k', Serving config w' k' ∧ Move config w.now k (.deliver node) k' := by
  obtain ⟨address, received, rfl, hnodes, hact⟩ := h.of_node? hact
  simp only [Machine.deliver, Option.bind_eq_bind] at hact
  cases hqueue : k.hub.queue.queue with
  | nil =>
      rw [Server.deliver_echoing_of_nil hqueue] at hact
      simp at hact
  | cons message rest =>
      obtain ⟨notices, hdeliver⟩ := Server.deliver_echoing config address hqueue
      rw [hdeliver] at hact
      obtain rfl := Option.some.inj hact
      refine ⟨_, ?_, .deliver hqueue⟩
      refine ⟨h.network, address, message :: received, ?_⟩
      change w.nodes.modify 0 _ = _
      rw [hnodes]
      rfl

/-- **An action that is possible is a move.** -/
theorem move (h : Serving config w k) (hact : w.act action = some w') :
    ∃ k', Serving config w' k' ∧ Move config w.now k action k' := by
  cases action with
  | accept node => exact h.accept_move hact
  | read node id most => exact h.read_move hact
  | dispatch node id => exact h.dispatch_move hact
  | write node id => exact h.write_move hact
  | expire node id => exact h.expire_move hact
  | deliver node => exact h.deliver_move hact
  | drain node earlier =>
      obtain ⟨address, received, rfl, -, hact⟩ := h.of_node? hact
      simp [Machine.deliver, Server.deliver_echoing_earlier] at hact
  | dial node slot => simp [World.act, h.round?_eq_none] at hact
  | settle node slot => simp [World.act, h.round?_eq_none] at hact
  | giveUp node slot => simp [World.act, h.round?_eq_none] at hact
  | evict node slot => simp [World.act, h.round?_eq_none] at hact
  | pass ms =>
      obtain rfl := Option.some.inj hact
      exact ⟨k, ⟨h.network, h.nodes⟩, .pass ms⟩

/-! ### Actions that are possible -/

theorem isSome_accept (h : Serving config w k) (hbacklog : k.network.backlog 0 ≠ []) :
    (w.act (.accept 0)).isSome = true := by
  obtain ⟨socket, rest, hrest⟩ := List.exists_cons_of_ne_nil hbacklog
  obtain ⟨address, received, hnode⟩ := h.node?_zero
  have haccept := Network.accept_eq_some_iff.2 ⟨rest, hrest, rfl⟩
  rw [← h.network] at haccept
  simp only [World.act, hnode, Option.bind_eq_bind, Option.bind_some]
  change ((w.network.accept 0).bind _).isSome = true
  rw [haccept]
  rfl

/-- A handler can read as long as something has arrived or the stream has ended. -/
theorem isSome_read (h : Serving config w k) (ha : k.hub.selecting? id = some a) {s : Socket}
    (hs : k.network.socket? a.socket = some s) (harrived : s.arrived ≠ [] ∨ s.ending ≠ none) :
    (w.act (.read 0 id 1)).isSome = true := by
  obtain ⟨address, hselecting⟩ := h.selecting?_eq id
  have hattached := (Hub.selecting?_eq_some_iff.1 ha).1
  have hreact : ∀ network stimulus, (w.react 0 id a.socket
      (.server (Server.echoing config address k)) network stimulus).isSome = true := by
    intro network stimulus
    obtain ⟨w', hw, -⟩ := h.react hattached network k.registry stimulus address
    exact Option.isSome_iff_exists.2 ⟨w', hw⟩
  simp only [World.act, hselecting, ha, Option.map_some, Option.bind_eq_bind, Option.bind_some,
    h.network]
  by_cases hempty : s.arrived = []
  · rw [Network.read_of_empty hs hempty]
    cases hending : s.ending with
    | none => simp [hempty, hending] at harrived
    | some ending => cases ending <;> exact hreact _ _
  · rw [Network.read_of_arrived hs hempty]
    obtain ⟨byte, rest, hbytes⟩ := List.exists_cons_of_ne_nil hempty
    simp only [hbytes, List.take_succ_cons, List.take_zero]
    exact hreact _ _

theorem isSome_dispatch (h : Serving config w k) {hub : Hub}
    (hdispatch : k.hub.dispatch id = some hub) : (w.act (.dispatch 0 id)).isSome = true := by
  obtain ⟨address, received, hnode⟩ := h.node?_zero
  simp [World.act, hnode, Machine.dispatch, Server.dispatch, Server.echoing, hdispatch]

theorem isSome_write (h : Serving config w k) (ha : k.hub.selecting? id = some a)
    {payload : Bytes} (hreceive : (k.registry.receive id).1 = .payload payload) :
    (w.act (.write 0 id)).isSome = true := by
  obtain ⟨address, hselecting⟩ := h.selecting?_eq id
  have hattached := (Hub.selecting?_eq_some_iff.1 ha).1
  obtain ⟨w', hreact, -⟩ := h.react hattached (k.network.write a.socket payload).2
    (k.registry.receive id).2 (.payload payload (k.network.write a.socket payload).1) address
  have hnext : Machine.nextPayload id (.server (Server.echoing config address k)) =
      .payload payload := hreceive
  simp only [World.act, hselecting, ha, Option.map_some, Option.bind_eq_bind, Option.bind_some,
    h.network, hnext]
  exact Option.isSome_iff_exists.2 ⟨w', hreact⟩

theorem isSome_deliver (h : Serving config w k) (hqueue : k.hub.queue.queue ≠ []) :
    (w.act (.deliver 0)).isSome = true := by
  obtain ⟨message, rest, hrest⟩ := List.exists_cons_of_ne_nil hqueue
  obtain ⟨address, received, hnode⟩ := h.node?_zero
  obtain ⟨notices, hdeliver⟩ := Server.deliver_echoing config address hrest
  simp [World.act, World.deliver, hnode, Machine.deliver, hdeliver]

end Serving

end Framewire
