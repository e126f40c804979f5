/-
**Connectors in use.**

A world in use begins with new connectors on an empty network.  From then on their users ask things
of them, the connectors do what they do by themselves, and others use the network as they like.
What a connector does by itself is the business of that connector alone: it keeps its configuration,
its sink, and whether it runs.

Main definitions:

* `Network.Use`, `Network.use` — what others than connectors do on a network;
* `Request`, `World.ask` — what a user asks of a connector, and what it comes to;
* `World.Happening`, `World.happen`, `World.after` — everything that can happen;
* `World.inhabited` — new connectors on an empty network;
* `World.unlogged` — the world without what was noted;
* `Standing`, `Machine.standing?` — what the life of a connector has come to.

Main results:

* `World.act_spec`, `World.ask_calls` — **actions and requests change one connector and the
  network**, and a request that fails changes neither;
* `World.messages_act` — a sink forgets nothing that it took;
* `Machine.Moves.standing?_eq` — what a connector does by itself leaves its standing as it is;
* `World.act_alike`, `World.ask_alike` — **what an action or a request comes to depends on its
  connector, the network and the time only**;
* `World.unlogged_after` — what was noted has no influence on what happens.
-/

import Framewire.World.Peer

set_option autoImplicit false

namespace Framewire

/-! ### What happens in a world -/

/-- What others than connectors do on a network. -/
inductive Network.Use where
  | listen (address : Endpoint)
  | closeListener (listener : Nat)
  | silence (address : Endpoint)
  | dial (address : Endpoint)
  | accept (listener : Nat)
  | write (socket : Nat) (bytes : Bytes)
  | read (socket most : Nat)
  | finish (socket : Nat)
  | close (socket : Nat)
  | abort (socket : Nat)

/-- The network after a use of it. -/
def Network.use (n : Network) : Use → Network
  | .listen address => match n.listen address with
    | .ok (_, n) => n
    | .error _ => n
  | .closeListener listener => n.closeListener listener
  | .silence address => { n with silent := address :: n.silent }
  | .dial address => (n.dial address).2
  | .accept listener => ((n.accept listener).map Prod.snd).getD n
  | .write socket bytes => (n.write socket bytes).2
  | .read socket most => (n.read socket most).2
  | .finish socket => n.finish socket
  | .close socket => n.close socket
  | .abort socket => n.abort socket

/-- What a user asks of a connector. -/
inductive Request where
  | setReceiver (receiver : Receiver)
  | start
  | stop
  | destroy
  | send (message : Message)

/-- A new connector of a configuration. -/
def Machine.ofConfig : ServerConfig ⊕ ClientConfig → Machine
  | .inl config => .server (.new config)
  | .inr config => .client (.new config)

namespace World

/-- Asks something of a connector: the result, and the world after it. -/
def ask (w : World) (id : Nat) (request : Request) : Call :=
  match w.node? id with
  | none => (.ok (), w)
  | some n =>
    match request with
    | .setReceiver receiver => w.setReceiver id receiver n.machine
    | .start => w.start id n.machine
    | .stop => (.ok (), w.stop id n.machine)
    | .destroy => (.ok (), w.destroy id n.machine)
    | .send message => w.send id message n.machine

/-- What can happen in a world. -/
inductive Happening where
  /-- a user asks something of a connector -/
  | ask (node : Nat) (request : Request)
  /-- a connector does something by itself, or time passes -/
  | act (action : Action)
  /-- somebody else uses the network -/
  | use (use : Network.Use)

/-- The world after something happened; an impossible action changes nothing. -/
def happen (w : World) : Happening → World
  | .ask node request => (w.ask node request).2
  | .act action => (w.act action).getD w
  | .use use => { w with network := w.network.use use }

/-- The world after several things happened. -/
def after (w : World) (happenings : List Happening) : World := happenings.foldl happen w

/-- New connectors on an empty network, numbered in the order of their configurations. -/
def inhabited (host : Host) (configs : List (ServerConfig ⊕ ClientConfig)) : World where
  network := { host }
  nodes := configs.map fun config => { machine := .ofConfig config }

@[simp] theorem after_nil (w : World) : w.after [] = w := rfl

@[simp] theorem after_cons (w : World) (x : Happening) (happenings : List Happening) :
    w.after (x :: happenings) = (w.happen x).after happenings := rfl

theorem after_append (w : World) (first later : List Happening) :
    w.after (first ++ later) = (w.after first).after later := List.foldl_append

end World

/-! ### What connectors do by themselves -/

/-- A handler has read from a socket, has written into it, or has done neither. -/
inductive Network.Handled (n : Network) (socket : Nat) : Network → Prop where
  | read (most : Nat) : Handled n socket (n.read socket most).2
  | write (bytes : Bytes) : Handled n socket (n.write socket bytes).2
  | neither : Handled n socket n

/-- What a connector does by itself, and what it does to the network. -/
inductive Machine.Moves (now : Nat) (n : Network) (m : Machine) : Network → Machine → Prop where
  | accept {s : Server} {round : Server.Round} {socket : Nat} {n' : Network} (hm : m = server s)
      (hround : s.life.running = some round)
      (haccept : n.accept round.listener = some (socket, n')) (remote : Endpoint) :
      Moves now n m n' (server (s.accept socket remote now).2)
  | react {id : Nat} {a : Attached} {hub : Hub} {n' : Network} {taken m' : Machine}
      {stimulus : Stimulus} {reaction : Reaction} {notices : List Notice}
      (hhub : m.hub? = some hub) (ha : hub.selecting? id = some a)
      (hnetwork : n.Handled a.socket n') (htaken : taken = m ∨ taken = m.takePayload id)
      (hreact : taken.react id now stimulus = some (reaction, notices, m')) :
      Moves now n m (if reaction.ended.isSome then n'.close a.socket else n') m'
  | dispatch {id : Nat} {m' : Machine} (hdispatch : m.dispatch id = some m') : Moves now n m n m'
  | deliver {earlier : Option Nat} {message : Message} {panic : Option Panic}
      {notices : List Notice} {m' : Machine}
      (hdeliver : m.deliver earlier = some (message, panic, notices, m')) : Moves now n m n m'
  | dial {slot : Nat} {r r' : Client.Round} (hr : m.round? = some r)
      (hdial : r.dial slot now = some r') : Moves now n m n (m.setRound r')
  | settle {slot : Nat} {r r' : Client.Round} {notices : List Notice} {n' : Network}
      (hr : m.round? = some r) (hsettle : r.settle slot now n = some (notices, r', n')) :
      Moves now n m n' (m.setRound r')
  | giveUp {slot : Nat} {r r' : Client.Round} {notices : List Notice} (hr : m.round? = some r)
      (hgiveUp : r.giveUp slot now = some (notices, r')) : Moves now n m n (m.setRound r')
  | evict {slot : Nat} {r r' : Client.Round} {notices : List Notice} (hr : m.round? = some r)
      (hevict : r.evict slot = some (notices, r')) : Moves now n m n (m.setRound r')

namespace World

variable {w w' : World} {id node : Nat} {n : Node} {action : Action}

/-- The connector that an action is about. -/
def Action.node? : Action → Option Nat
  | .accept node | .read node _ _ | .dispatch node _ | .write node _ | .expire node _
  | .deliver node | .drain node _ | .dial node _ | .settle node _ | .giveUp node _
  | .evict node _ => some node
  | .pass _ => none

/-- Whether an action is that the sink of a connector gets a message. -/
def Action.Gives (action : Action) (node : Nat) : Prop :=
  action = .deliver node ∨ ∃ earlier, action = .drain node earlier

/-- The connector of a number is replaced, and the network with it. -/
def set (w : World) (node : Nat) (n : Node) (network : Network) (notices : List Notice) : World :=
  { w with network, nodes := w.nodes.set node n, notices }

theorem node?_set (hn : w.node? node = some n) (n' : Node) (network : Network)
    (notices : List Notice) (id : Nat) :
    (w.set node n' network notices).node? id = if id = node then some n' else w.node? id := by
  obtain ⟨hlt, -⟩ := List.getElem?_eq_some_iff.1 hn
  rw [node?, set, List.getElem?_set]
  by_cases h : id = node
  · rw [if_pos h.symm, if_pos hlt, if_pos h]
  · rw [if_neg (Ne.symm h), if_neg h, node?]

/-- Replacing a connector by itself changes nothing. -/
theorem set_self (hn : w.node? node = some n) : w.set node n w.network w.notices = w := by
  obtain ⟨hlt, rfl⟩ := List.getElem?_eq_some_iff.1 hn
  exact congrArg (fun nodes => { w with nodes }) (List.set_getElem_self hlt)

theorem modify_eq_set (hn : w.node? node = some n) (f : Node → Node) :
    w.nodes.modify node f = w.nodes.set node (f n) := by
  refine List.ext_getElem? fun i => ?_
  obtain ⟨hlt, rfl⟩ := List.getElem?_eq_some_iff.1 hn
  rw [List.getElem?_modify, List.getElem?_set]
  by_cases h : node = i
  · subst h
    simp [hlt]
  · simp [h]

/-- A connector is replaced, and something is noted. -/
theorem note_setMachine (hn : w.node? node = some n) (machine : Machine) (network : Network)
    (notices : List Notice) :
    ({ w with network }.setMachine node machine).note notices =
      w.set node { n with machine } network (notices.reverse ++ w.notices) := by
  rw [setMachine, note, set]
  dsimp only
  rw [modify_eq_set hn]

theorem note_modify (hn : w.node? node = some n) (n' : Node) (notices : List Notice) :
    { w with nodes := w.nodes.modify node fun _ => n' }.note notices =
      w.set node n' w.network (notices.reverse ++ w.notices) := by
  rw [note, set]
  dsimp only
  rw [modify_eq_set hn]

/-- A handler's reaction replaces the connector. -/
theorem react_eq_some (hn : w.node? node = some n) {socket : Nat} {machine : Machine}
    {network : Network} {stimulus : Stimulus}
    (hreact : w.react node id socket machine network stimulus = some w') :
    ∃ reaction notices machine', machine.react id w.now stimulus =
        some (reaction, notices, machine') ∧
      w' = w.set node { n with machine := machine' }
        (if reaction.ended.isSome then network.close socket else network)
        (notices.reverse ++ w.notices) := by
  obtain ⟨⟨reaction, notices, machine'⟩, hmachine, hreact⟩ := Option.bind_eq_some_iff.1 hreact
  refine ⟨reaction, notices, machine', hmachine, ?_⟩
  rw [← note_setMachine hn]
  exact (Option.some.inj hreact).symm

/-- A selecting handler belongs to a connector that runs. -/
theorem selecting?_eq_some {machine : Machine} {a : Attached}
    (h : w.selecting? node id = some (machine, a)) :
    ∃ n hub, w.node? node = some n ∧ n.machine = machine ∧ machine.hub? = some hub ∧
      hub.selecting? id = some a := by
  obtain ⟨n, hn, h⟩ := Option.bind_eq_some_iff.1 h
  obtain ⟨hub, hhub, h⟩ := Option.bind_eq_some_iff.1 h
  obtain ⟨a', ha, h⟩ := Option.bind_eq_some_iff.1 h
  obtain ⟨rfl, rfl⟩ := Prod.mk.inj (Option.some.inj h)
  exact ⟨n, hub, hn, rfl, hhub, ha⟩

theorem round?_eq_some {machine : Machine} {r : Client.Round}
    (h : w.round? node = some (machine, r)) :
    ∃ n, w.node? node = some n ∧ n.machine = machine ∧ machine.round? = some r := by
  obtain ⟨n, hn, h⟩ := Option.bind_eq_some_iff.1 h
  obtain ⟨r', hr, h⟩ := Option.bind_eq_some_iff.1 h
  obtain ⟨rfl, rfl⟩ := Prod.mk.inj (Option.some.inj h)
  exact ⟨n, hn, rfl, hr⟩

/-- One connector moves, and the network with it; only a delivery gives its sink something. -/
def Changes (w : World) (action : Action) (node : Nat) (w' : World) : Prop :=
  ∃ n network machine received notices, w.node? node = some n ∧
    n.machine.Moves w.now w.network network machine ∧
      (received = n.received ∨ action.Gives node) ∧
        w' = w.set node ⟨machine, received⟩ network notices

theorem changes_of_move {network : Network} {machine : Machine} (hn : w.node? node = some n)
    (hmove : n.machine.Moves w.now w.network network machine) (notices : List Notice) :
    w.Changes action node (({ w with network }.setMachine node machine).note notices) :=
  ⟨n, network, machine, n.received, _, hn, hmove, .inl rfl,
    note_setMachine hn machine network notices⟩

theorem changes_of_round {r : Client.Round} {machine : Machine} {network : Network}
    (hround : w.round? node = some (machine, r)) (r' : Client.Round) (notices : List Notice)
    (hmove : machine.round? = some r → machine.Moves w.now w.network network
      (machine.setRound r')) :
    w.Changes action node ({ w with network }.setRound node machine (notices, r')) := by
  obtain ⟨n, hn, rfl, hr⟩ := round?_eq_some hround
  exact changes_of_move hn (hmove hr) notices

theorem changes_of_react {a : Attached} {machine taken : Machine} {network : Network}
    {stimulus : Stimulus} (hselecting : w.selecting? node id = some (machine, a))
    (hnetwork : w.network.Handled a.socket network)
    (htaken : taken = machine ∨ taken = machine.takePayload id)
    (hreact : w.react node id a.socket taken network stimulus = some w') :
    w.Changes action node w' := by
  obtain ⟨n, hub, hn, rfl, hhub, ha⟩ := selecting?_eq_some hselecting
  obtain ⟨reaction, notices, machine', hmachine, rfl⟩ := react_eq_some hn hreact
  exact ⟨n, _, machine', n.received, _, hn, .react hhub ha hnetwork htaken hmachine, .inl rfl, rfl⟩

theorem accept_changes (hact : w.act (.accept node) = some w') :
    w.Changes (.accept node) node w' := by
  obtain ⟨n, hn, hact⟩ := Option.bind_eq_some_iff.1 hact
  split at hact
  · next s hs =>
    obtain ⟨round, hround, hact⟩ := Option.bind_eq_some_iff.1 hact
    obtain ⟨⟨socket, network⟩, haccept, hact⟩ := Option.bind_eq_some_iff.1 hact
    obtain rfl := Option.some.inj hact
    exact changes_of_move hn (.accept hs hround haccept _) _
  · simp at hact

theorem read_changes {most : Nat} (hact : w.act (.read node id most) = some w') :
    w.Changes (.read node id most) node w' := by
  obtain ⟨⟨machine, a⟩, hselecting, hact⟩ := Option.bind_eq_some_iff.1 hact
  have hhandled : w.network.Handled a.socket (w.network.read a.socket most).2 := .read most
  dsimp only at hact
  split at hact
  · next hread =>
    rw [hread] at hhandled
    exact changes_of_react hselecting hhandled (.inl rfl) hact
  · next hread =>
    rw [hread] at hhandled
    exact changes_of_react hselecting hhandled (.inl rfl) hact
  · next hread =>
    rw [hread] at hhandled
    exact changes_of_react hselecting hhandled (.inl rfl) hact
  · simp at hact

theorem write_changes (hact : w.act (.write node id) = some w') :
    w.Changes (.write node id) node w' := by
  obtain ⟨⟨machine, a⟩, hselecting, hact⟩ := Option.bind_eq_some_iff.1 hact
  dsimp only at hact
  split at hact
  · exact changes_of_react hselecting (.write _) (.inr rfl) hact
  · exact changes_of_react hselecting .neither (.inl rfl) hact
  · simp at hact

theorem deliver_changes {earlier : Option Nat} (hgives : action.Gives node)
    (hact : w.deliver node earlier = some w') : w.Changes action node w' := by
  obtain ⟨n, hn, hact⟩ := Option.bind_eq_some_iff.1 hact
  obtain ⟨⟨message, panic, notices, machine⟩, hdeliver, hact⟩ := Option.bind_eq_some_iff.1 hact
  obtain rfl := Option.some.inj hact
  exact ⟨n, w.network, machine, if panic.isNone then message :: n.received else n.received,
    notices.reverse ++ w.notices, hn, .deliver hdeliver, .inr hgives, note_modify hn _ notices⟩

/-- **An action changes one connector and the network**, or only time passes. -/
theorem act_spec (hact : w.act action = some w') :
    (∃ ms, action = .pass ms ∧ w' = { w with now := w.now + ms }) ∨
      ∃ node, action.node? = some node ∧ w.Changes action node w' := by
  cases action with
  | accept node => exact .inr ⟨node, rfl, accept_changes hact⟩
  | read node id most => exact .inr ⟨node, rfl, read_changes hact⟩
  | write node id => exact .inr ⟨node, rfl, write_changes hact⟩
  | dispatch node id =>
      obtain ⟨n, hn, hact⟩ := Option.bind_eq_some_iff.1 hact
      obtain ⟨machine, hdispatch, hact⟩ := Option.bind_eq_some_iff.1 hact
      obtain rfl := Option.some.inj hact
      exact .inr ⟨node, rfl, changes_of_move hn (.dispatch hdispatch) []⟩
  | expire node id =>
      obtain ⟨⟨machine, a⟩, hselecting, hact⟩ := Option.bind_eq_some_iff.1 hact
      dsimp only at hact
      split at hact
      · exact .inr ⟨node, rfl, changes_of_react hselecting .neither (.inl rfl) hact⟩
      · simp at hact
  | deliver node => exact .inr ⟨node, rfl, deliver_changes (.inl rfl) hact⟩
  | drain node earlier => exact .inr ⟨node, rfl, deliver_changes (.inr ⟨earlier, rfl⟩) hact⟩
  | dial node slot =>
      obtain ⟨⟨machine, r⟩, hround, hact⟩ := Option.bind_eq_some_iff.1 hact
      obtain ⟨r', hdial, hact⟩ := Option.bind_eq_some_iff.1 hact
      obtain rfl := Option.some.inj hact
      exact .inr ⟨node, rfl, changes_of_round hround r' [] fun hr => .dial hr hdial⟩
  | settle node slot =>
      obtain ⟨⟨machine, r⟩, hround, hact⟩ := Option.bind_eq_some_iff.1 hact
      obtain ⟨⟨notices, r', network⟩, hsettle, hact⟩ := Option.bind_eq_some_iff.1 hact
      obtain rfl := Option.some.inj hact
      exact .inr ⟨node, rfl, changes_of_round hround r' notices fun hr => .settle hr hsettle⟩
  | giveUp node slot =>
      obtain ⟨⟨machine, r⟩, hround, hact⟩ := Option.bind_eq_some_iff.1 hact
      obtain ⟨⟨notices, r'⟩, hgiveUp, hact⟩ := Option.bind_eq_some_iff.1 hact
      obtain rfl := Option.some.inj hact
      exact .inr ⟨node, rfl, changes_of_round hround r' notices fun hr => .giveUp hr hgiveUp⟩
  | evict node slot =>
      obtain ⟨⟨machine, r⟩, hround, hact⟩ := Option.bind_eq_some_iff.1 hact
      obtain ⟨⟨notices, r'⟩, hevict, hact⟩ := Option.bind_eq_some_iff.1 hact
      obtain rfl := Option.some.inj hact
      exact .inr ⟨node, rfl, changes_of_round hround r' notices fun hr => .evict hr hevict⟩
  | pass ms => exact .inl ⟨ms, rfl, (Option.some.inj hact).symm⟩

/-! ### What requests change -/

/-- What a call of a user does: it notes something, or succeeds and replaces a connector. -/
inductive Calls (w : World) (node : Nat) : Call → Prop where
  | notes (result : Except Fault Unit) (notices : List Notice) :
      Calls w node (result, w.note notices)
  | replaces {n : Node} (hn : w.node? node = some n) (machine : Machine) (network : Network)
      (notices : List Notice) : Calls w node (.ok (), w.set node { n with machine } network notices)

theorem Calls.of_setMachine (hn : w.node? node = some n) (machine : Machine) (network : Network)
    (notices : List Notice) :
    w.Calls node (.ok (), ({ w with network }.setMachine node machine).note notices) := by
  rw [note_setMachine hn]
  exact .replaces hn machine network _

theorem called_calls (hn : w.node? node = some n) (result : Except Fault (List Notice × Machine)) :
    w.Calls node (w.called node result) := by
  match result with
  | .ok (notices, machine) => exact .of_setMachine hn machine w.network notices
  | .error fault => exact .notes (.error fault) []

theorem setReceiver_calls (hn : w.node? node = some n) (receiver : Receiver) (machine : Machine) :
    w.Calls node (w.setReceiver node receiver machine) := by
  cases machine <;> rw [setReceiver] <;> exact called_calls hn _

theorem send_calls (hn : w.node? node = some n) (message : Message) (machine : Machine) :
    w.Calls node (w.send node message machine) := by
  cases machine <;> rw [send] <;> exact called_calls hn _

theorem start_calls (hn : w.node? node = some n) (machine : Machine) :
    w.Calls node (w.start node machine) := by
  cases machine with
  | server s =>
      rw [start]
      split
      · next notices s' network _ => exact .of_setMachine hn (.server s') network notices
      · next notices fault _ => exact .notes (.error fault) notices
  | client c => exact called_calls hn _
  | pool r => exact called_calls hn (.ok ([], .pool r))

theorem stop_calls (hn : w.node? node = some n) (machine : Machine) :
    w.Calls node (.ok (), w.stop node machine) := by
  cases machine with
  | server s => exact .of_setMachine hn _ _ _
  | client c => exact .of_setMachine hn _ _ _
  | pool r => exact .of_setMachine hn (.pool r.close) w.network []

theorem destroy_calls (hn : w.node? node = some n) (machine : Machine) :
    w.Calls node (.ok (), w.destroy node machine) := by
  cases machine with
  | server s => exact .of_setMachine hn _ _ _
  | client c => exact .of_setMachine hn _ _ _
  | pool r => exact .of_setMachine hn (.pool r.close) w.network []

/-- **A request changes one connector and the network**, and where it fails, neither. -/
theorem ask_calls (w : World) (node : Nat) (request : Request) :
    w.Calls node (w.ask node request) := by
  rw [ask]
  cases hn : w.node? node with
  | none => exact .notes (.ok ()) []
  | some n =>
      cases request with
      | setReceiver receiver => exact setReceiver_calls hn receiver n.machine
      | start => exact start_calls hn n.machine
      | stop => exact stop_calls hn n.machine
      | destroy => exact destroy_calls hn n.machine
      | send message => exact send_calls hn message n.machine

/-! ### What sinks took -/

theorem messages_set (hn : w.node? node = some n) (n' : Node) (network : Network)
    (notices : List Notice) (id : Nat) :
    (w.set node n' network notices).messages id =
      if id = node then n'.received.reverse else w.messages id := by
  rw [messages, node?_set hn, messages]
  by_cases hid : id = node
  · rw [if_pos hid, if_pos hid]
    rfl
  · rw [if_neg hid, if_neg hid]

/-- Only a delivery gives a sink something. -/
theorem messages_happen (w : World) {x : Happening}
    (h : ∀ action, x = .act action → ¬action.Gives id) :
    (w.happen x).messages id = w.messages id := by
  have hset : ∀ {node : Nat} {n n' : Node} (network : Network) (notices : List Notice),
      w.node? node = some n → (node = id → n'.received = n.received) →
        (w.set node n' network notices).messages id = w.messages id := by
    intro node n n' network notices hn hreceived
    rw [messages_set hn]
    split
    · next hid =>
      rw [messages, hid, hn, hreceived hid.symm]
      rfl
    · rfl
  cases x with
  | ask node request =>
      have hcalls := ask_calls w node request
      rw [happen]
      generalize w.ask node request = call at hcalls
      cases hcalls with
      | notes result notices => rfl
      | replaces hn machine network notices => exact hset network notices hn fun _ => rfl
  | act action =>
      rw [happen]
      cases hact : w.act action with
      | none => rfl
      | some w' =>
          obtain ⟨ms, -, rfl⟩ | ⟨node, -, n, network, machine, received, notices, hn, -, hreceived,
            rfl⟩ := act_spec hact
          · rfl
          · refine hset network notices hn fun hid => ?_
            rcases hreceived with hreceived | hgives
            · exact hreceived
            · exact absurd (hid ▸ hgives) (h action rfl)
  | use use => rfl

theorem messages_deliver {earlier : Option Nat} (hdeliver : w.deliver node earlier = some w')
    (id : Nat) : w.messages id <+: w'.messages id := by
  obtain ⟨n, hn, hdeliver⟩ := Option.bind_eq_some_iff.1 hdeliver
  obtain ⟨⟨message, panic, notices, machine⟩, -, hdeliver⟩ := Option.bind_eq_some_iff.1 hdeliver
  obtain rfl := Option.some.inj hdeliver
  rw [note_modify hn, messages_set hn]
  split
  · next hid =>
    rw [messages, hid, hn, Option.map_some, Option.getD_some]
    dsimp only
    split
    · exact List.reverse_prefix.2 (List.suffix_cons ..)
    · exact List.prefix_refl _
  · exact List.prefix_refl _

/-- **A sink forgets nothing that it took.** -/
theorem messages_act (hact : w.act action = some w') (id : Nat) :
    w.messages id <+: w'.messages id := by
  by_cases hgives : action.Gives id
  · obtain rfl | ⟨earlier, rfl⟩ := hgives
    · exact messages_deliver hact id
    · exact messages_deliver hact id
  · have hsame : (w.happen (.act action)).messages id = w.messages id :=
      messages_happen w fun other heq => by rwa [← Happening.act.inj heq]
    rw [happen, hact, Option.getD_some] at hsame
    exact hsame ▸ List.prefix_refl (w.messages id)

/-! ### What actions and requests depend on -/

/-- The same became of a connector and of the network in two worlds, or it was only noted. -/
inductive Alike (w w' : World) (node : Nat) : World → World → Prop where
  | notes (notices : List Notice) : Alike w w' node (w.note notices) (w'.note notices)
  | replaces (n : Node) (network : Network) (notices : List Notice) :
      Alike w w' node (w.set node n network (notices ++ w.notices))
        (w'.set node n network (notices ++ w'.notices))

theorem rel_bind {α : Type} {r : World → World → Prop} {x : Option α} {f g : α → Option World}
    (h : ∀ a, x = some a → Option.Rel r (f a) (g a)) : Option.Rel r (x.bind f) (x.bind g) := by
  cases x with
  | none => exact .none
  | some a => exact h a rfl

theorem rel_imp {r q : World → World → Prop} {x y : Option World} (h : Option.Rel r x y)
    (himp : ∀ u u', r u u' → q u u') : Option.Rel q x y := by
  cases h with
  | some h => exact .some (himp _ _ h)
  | none => exact .none

theorem rel_getD {r : World → World → Prop} {x y : Option World} {u u' : World}
    (h : Option.Rel r x y) (hu : r u u') : r (x.getD u) (y.getD u') := by
  cases h with
  | some h => exact h
  | none => exact hu

section

variable {nodes : List Node} {noted : List Notice}

theorem alike_of_setMachine (h : nodes[node]? = w.node? node) (hn : w.node? node = some n)
    (machine : Machine) (network : Network) (notices : List Notice) :
    w.Alike { w with nodes, notices := noted } node
      (({ w with network }.setMachine node machine).note notices)
      (({ w with network, nodes, notices := noted }.setMachine node machine).note notices) := by
  rw [note_setMachine hn]
  exact note_setMachine (w := { w with nodes, notices := noted }) (h.trans hn) machine network
    notices ▸ .replaces { n with machine } network notices.reverse

theorem alike_of_react (h : nodes[node]? = w.node? node) {machine : Machine} {a : Attached}
    (hselecting : w.selecting? node id = some (machine, a)) (taken : Machine) (network : Network)
    (stimulus : Stimulus) :
    Option.Rel (w.Alike { w with nodes, notices := noted } node)
      (w.react node id a.socket taken network stimulus)
      ({ w with nodes, notices := noted }.react node id a.socket taken network stimulus) := by
  obtain ⟨n, -, hn, -⟩ := selecting?_eq_some hselecting
  refine rel_bind fun (reaction, notices, machine) _ => .some ?_
  exact alike_of_setMachine h hn machine _ notices

theorem alike_of_setRound (h : nodes[node]? = w.node? node) {machine : Machine} {r : Client.Round}
    (hround : w.round? node = some (machine, r)) (network : Network)
    (result : List Notice × Client.Round) :
    w.Alike { w with nodes, notices := noted } node
      ({ w with network }.setRound node machine result)
      ({ w with network, nodes, notices := noted }.setRound node machine result) := by
  obtain ⟨n, hn, -⟩ := round?_eq_some hround
  exact alike_of_setMachine h hn (machine.setRound result.2) network result.1

theorem deliver_alike (h : nodes[node]? = w.node? node) (earlier : Option Nat) :
    Option.Rel (w.Alike { w with nodes, notices := noted } node) (w.deliver node earlier)
      ({ w with nodes, notices := noted }.deliver node earlier) := by
  have hnode : { w with nodes, notices := noted }.node? node = w.node? node := h
  rw [deliver, deliver, hnode]
  refine rel_bind fun n hn => rel_bind fun (message, panic, notices, machine) _ => .some ?_
  rw [note_modify hn, note_modify (w := { w with nodes, notices := noted }) (hnode.trans hn)]
  exact .replaces _ w.network notices.reverse

/-- **What an action comes to depends on its connector, the network and the time only.** -/
theorem act_alike (h : nodes[node]? = w.node? node) (haction : action.node? = some node) :
    Option.Rel (w.Alike { w with nodes, notices := noted } node) (w.act action)
      ({ w with nodes, notices := noted }.act action) := by
  have hnode : { w with nodes, notices := noted }.node? node = w.node? node := h
  have hselecting : ∀ id, { w with nodes, notices := noted }.selecting? node id =
      w.selecting? node id := fun id => by rw [selecting?, selecting?, hnode]
  have hround : { w with nodes, notices := noted }.round? node = w.round? node := by
    rw [round?, round?, hnode]
  cases action with
  | accept _ =>
      obtain rfl := Option.some.inj haction
      rw [act, act, hnode]
      refine rel_bind fun n hn => ?_
      dsimp only
      split
      · next s _ =>
        exact rel_bind fun round _ => rel_bind fun (socket, network) _ => .some
          (alike_of_setMachine h hn _ network _)
      · exact .none
  | read _ id most =>
      obtain rfl := Option.some.inj haction
      rw [act, act, hselecting]
      refine rel_bind fun (machine, a) hs => ?_
      dsimp only
      split
      · exact alike_of_react h hs ..
      · exact alike_of_react h hs ..
      · exact alike_of_react h hs ..
      · exact .none
  | dispatch _ id =>
      obtain rfl := Option.some.inj haction
      rw [act, act, hnode]
      exact rel_bind fun n hn => rel_bind fun machine _ => .some
        (alike_of_setMachine h hn machine w.network [])
  | write _ id =>
      obtain rfl := Option.some.inj haction
      rw [act, act, hselecting]
      refine rel_bind fun (machine, a) hs => ?_
      dsimp only
      split
      · exact alike_of_react h hs ..
      · exact alike_of_react h hs ..
      · exact .none
  | expire _ id =>
      obtain rfl := Option.some.inj haction
      rw [act, act, hselecting]
      refine rel_bind fun (machine, a) hs => ?_
      dsimp only
      split
      · exact alike_of_react h hs ..
      · exact .none
  | deliver _ =>
      obtain rfl := Option.some.inj haction
      exact deliver_alike h none
  | drain _ earlier =>
      obtain rfl := Option.some.inj haction
      exact deliver_alike h (some earlier)
  | dial _ slot =>
      obtain rfl := Option.some.inj haction
      rw [act, act, hround]
      exact rel_bind fun (machine, r) hr => rel_bind fun r' _ => .some
        (alike_of_setRound h hr w.network ([], r'))
  | settle _ slot =>
      obtain rfl := Option.some.inj haction
      rw [act, act, hround]
      exact rel_bind fun (machine, r) hr => rel_bind fun (notices, r', network) _ => .some
        (alike_of_setRound h hr network (notices, r'))
  | giveUp _ slot =>
      obtain rfl := Option.some.inj haction
      rw [act, act, hround]
      exact rel_bind fun (machine, r) hr => rel_bind fun result _ => .some
        (alike_of_setRound h hr w.network result)
  | evict _ slot =>
      obtain rfl := Option.some.inj haction
      rw [act, act, hround]
      exact rel_bind fun (machine, r) hr => rel_bind fun result _ => .some
        (alike_of_setRound h hr w.network result)
  | pass ms => simp [Action.node?] at haction

theorem called_alike (h : nodes[node]? = w.node? node) (hn : w.node? node = some n)
    (result : Except Fault (List Notice × Machine)) :
    ({ w with nodes, notices := noted }.called node result).1 = (w.called node result).1 ∧
      w.Alike { w with nodes, notices := noted } node (w.called node result).2
        ({ w with nodes, notices := noted }.called node result).2 := by
  match result with
  | .ok (notices, machine) => exact ⟨rfl, alike_of_setMachine h hn machine w.network notices⟩
  | .error fault => exact ⟨rfl, .notes []⟩

theorem start_alike (h : nodes[node]? = w.node? node) (hn : w.node? node = some n)
    (machine : Machine) :
    ({ w with nodes, notices := noted }.start node machine).1 = (w.start node machine).1 ∧
      w.Alike { w with nodes, notices := noted } node (w.start node machine).2
        ({ w with nodes, notices := noted }.start node machine).2 := by
  cases machine with
  | server s =>
      rw [start, start]
      dsimp only
      split
      · next notices s' network _ => exact ⟨rfl, alike_of_setMachine h hn _ network notices⟩
      · next notices fault _ => exact ⟨rfl, .notes notices⟩
  | client c => exact called_alike h hn _
  | pool r => exact called_alike h hn (.ok ([], .pool r))

/-- **What a request comes to depends on its connector, the network and the time only.** -/
theorem ask_alike (h : nodes[node]? = w.node? node) (request : Request) :
    ({ w with nodes, notices := noted }.ask node request).1 = (w.ask node request).1 ∧
      w.Alike { w with nodes, notices := noted } node (w.ask node request).2
        ({ w with nodes, notices := noted }.ask node request).2 := by
  have hnode : ({ w with nodes, notices := noted } : World).node? node = w.node? node := h
  rw [ask, ask, hnode]
  cases hn : w.node? node with
  | none => exact ⟨rfl, .notes []⟩
  | some n =>
      dsimp only
      cases request with
      | setReceiver receiver => cases n.machine <;> exact called_alike h hn _
      | start => exact start_alike h hn n.machine
      | stop => 
          cases n.machine with
          | server s => exact ⟨rfl, alike_of_setMachine h hn _ _ _⟩
          | client c => exact ⟨rfl, alike_of_setMachine h hn _ _ _⟩
          | pool r => exact ⟨rfl, alike_of_setMachine h hn _ w.network []⟩
      | destroy => 
          cases n.machine with
          | server s => exact ⟨rfl, alike_of_setMachine h hn _ _ _⟩
          | client c => exact ⟨rfl, alike_of_setMachine h hn _ _ _⟩
          | pool r => exact ⟨rfl, alike_of_setMachine h hn _ w.network []⟩
      | send message => cases n.machine <;> exact called_alike h hn _

end

/-! ### What was noted -/

/-- The world without what was noted. -/
def unlogged (w : World) : World := { w with notices := [] }

theorem Alike.unlogged_eq {u u' : World} (h : w.Alike w.unlogged node u u') :
    u'.unlogged = u.unlogged := by
  cases h with
  | notes notices => rfl
  | replaces n network notices => rfl

theorem unlogged_act (w : World) (action : Action) :
    Option.Rel (fun u u' => u'.unlogged = u.unlogged) (w.act action) (w.unlogged.act action) := by
  cases hnode : action.node? with
  | none =>
      cases action with
      | pass ms => exact .some rfl
      | _ => simp [Action.node?] at hnode
  | some node => exact rel_imp (act_alike rfl hnode) fun _ _ h => h.unlogged_eq

theorem unlogged_happen (w : World) (happening : Happening) :
    (w.unlogged.happen happening).unlogged = (w.happen happening).unlogged := by
  cases happening with
  | ask node request => exact (ask_alike rfl request).2.unlogged_eq
  | act action => exact rel_getD (unlogged_act w action) rfl
  | use use => rfl

/-- **What was noted has no influence on what happens.** -/
theorem unlogged_after (w : World) (happenings : List Happening) :
    (w.unlogged.after happenings).unlogged = (w.after happenings).unlogged := by
  induction happenings generalizing w with
  | nil => rfl
  | cons happening happenings ih =>
      rw [after_cons, after_cons, ← ih, unlogged_happen, ih]

end World

/-! ### Standing -/

/-- What the life of a connector has come to. -/
structure Standing where
  sink : Option Receiver := none
  destroyed : Bool := false
  isRunning : Bool := false

/-- The standing that a life has. -/
def Lifecycle.standing {ρ : Type} (l : Lifecycle Receiver ρ) : Standing :=
  ⟨l.sink, l.destroyed, l.isRunning⟩

/-- Whatever changes what runs keeps the standing. -/
@[simp] theorem Lifecycle.standing_modify {ρ : Type} (l : Lifecycle Receiver ρ) (f : ρ → ρ) :
    (l.modify f).standing = l.standing := by
  simp [standing, modify, isRunning]

theorem Lifecycle.running_eq_none_iff {ρ : Type} {l : Lifecycle Receiver ρ} :
    l.running = none ↔ l.standing.isRunning = false := by
  simp [standing, isRunning]

namespace Machine

/-- The configuration and the standing of a connector; a pool by itself has none. -/
def standing? : Machine → Option ((ServerConfig ⊕ ClientConfig) × Standing)
  | server s => some (.inl s.config, s.life.standing)
  | client c => some (.inr c.config, c.life.standing)
  | pool _ => none

variable {m m' : Machine} {n n' : Network} {id now : Nat}

/-- Whatever changes what runs of a server, its registry and its queues keeps its standing. -/
theorem standing?_server (s : Server) (f : Server.Round → Server.Round) (registry : Registry)
    (retired : List SinkQueue) :
    (server { s with life := s.life.modify f, registry, retired }).standing? =
      (server s).standing? := by
  simp [standing?]

theorem standing?_client (c : Client) (f : Client.Round → Client.Round)
    (retired : List SinkQueue) :
    (client { c with life := c.life.modify f, retired }).standing? = (client c).standing? := by
  simp [standing?]

theorem standing?_setRound {r : Client.Round} (hr : m.round? = some r) (r' : Client.Round) :
    (m.setRound r').standing? = m.standing? := by
  cases m with
  | server s => simp [round?] at hr
  | client c =>
      have hrunning : c.life.running = some r := hr
      simp [setRound, standing?, Lifecycle.standing, Lifecycle.isRunning, hrunning]
  | pool r => rfl

theorem standing?_react {stimulus : Stimulus} {reaction : Reaction} {notices : List Notice}
    (hreact : m.react id now stimulus = some (reaction, notices, m')) :
    m'.standing? = m.standing? := by
  cases m with
  | server s =>
      obtain ⟨⟨_, _, s'⟩, hs, hreact⟩ := Option.bind_eq_some_iff.1 hreact
      obtain ⟨-, -, rfl⟩ := by simpa using hreact
      obtain ⟨round, hround, hs⟩ := Option.bind_eq_some_iff.1 hs
      obtain ⟨⟨reaction', hub⟩, hhub, hs⟩ := Option.bind_eq_some_iff.1 hs
      dsimp only at hs
      split at hs
      · obtain ⟨-, -, rfl⟩ := by simpa using hs
        exact standing?_server s _ s.registry s.retired
      · obtain ⟨-, -, rfl⟩ := by simpa using hs
        exact standing?_server s _ _ s.retired
  | client c =>
      obtain ⟨r, hr, hreact⟩ := Option.bind_eq_some_iff.1 hreact
      obtain ⟨⟨_, _, r'⟩, -, hreact⟩ := Option.bind_eq_some_iff.1 hreact
      obtain ⟨-, -, rfl⟩ := by simpa using hreact
      exact standing?_setRound (m := client c) hr r'
  | pool r =>
      obtain ⟨⟨_, _, r'⟩, -, hreact⟩ := Option.bind_eq_some_iff.1 hreact
      obtain ⟨-, -, rfl⟩ := by simpa using hreact
      rfl

theorem standing?_takePayload (m : Machine) (id : Nat) :
    (m.takePayload id).standing? = m.standing? := by
  cases m <;> rfl

theorem standing?_dispatch (hdispatch : m.dispatch id = some m') :
    m'.standing? = m.standing? := by
  cases m with
  | server s =>
      obtain ⟨s', hs, rfl⟩ := Option.map_eq_some_iff.1 hdispatch
      obtain ⟨round, hround, hs⟩ := Option.bind_eq_some_iff.1 hs
      obtain ⟨hub, hhub, hs⟩ := Option.bind_eq_some_iff.1 hs
      obtain rfl := Option.some.inj hs
      exact standing?_server s _ s.registry s.retired
  | client c =>
      obtain ⟨r, hr, hdispatch⟩ := Option.bind_eq_some_iff.1 hdispatch
      obtain ⟨hub, -, hdispatch⟩ := Option.bind_eq_some_iff.1 hdispatch
      obtain rfl := Option.some.inj hdispatch
      exact standing?_setRound (m := client c) hr _
  | pool r =>
      obtain ⟨hub, -, hdispatch⟩ := Option.bind_eq_some_iff.1 hdispatch
      obtain rfl := Option.some.inj hdispatch
      rfl

end Machine

/-! ### Sending and delivering -/

theorem Lifecycle.admitSend_eq_ok_iff {σ ρ : Type} {l : Lifecycle σ ρ} {r : ρ} :
    l.admitSend = .ok r ↔ l.sink.isSome = true ∧ l.running = some r := by
  rw [admitSend]
  cases l.sink <;> cases l.running <;> simp

namespace Server

variable {s s' : Server} {earlier : Option Nat} {message : Message} {panic : Option Panic}
  {notices : List Notice}

/-- Sending a message changes the registry of a server that runs. -/
theorem send_eq_ok (h : s.send message = .ok (notices, s')) :
    s.isRunning = true ∧ s' = { s with registry := (s.registry.send message).2 } := by
  rw [send] at h
  split at h
  · simp at h
  · next round hround =>
    have hrunning := (Lifecycle.admitSend_eq_ok_iff.1 hround).2
    exact ⟨by simp [isRunning, Lifecycle.isRunning, hrunning],
      (Prod.mk.inj (Except.ok.inj h)).2.symm⟩

@[simp] theorem registry_setQueue (s : Server) (queue : SinkQueue) (earlier : Option Nat) :
    (s.setQueue queue earlier).registry = s.registry := by
  cases earlier <;> rfl

@[simp] theorem isRunning_setQueue (s : Server) (queue : SinkQueue) (earlier : Option Nat) :
    (s.setQueue queue earlier).isRunning = s.isRunning := by
  cases earlier with
  | none => simp [isRunning, Lifecycle.isRunning, setQueue, Lifecycle.modify]
  | some k => rfl

/-- A delivery takes a message out of a queue; a server that runs may send it back. -/
theorem deliver_eq_some (h : s.deliver earlier = some (message, panic, notices, s')) :
    ∃ receiver queue registry, s.life.sink = some receiver ∧ s.queue? earlier = some queue ∧
      queue.queue.head? = some message ∧
        (registry = s.registry ∨ s.isRunning = true ∧ registry = (s.registry.send message).2) ∧
          s' = { s.setQueue (queue.deliver receiver.sink) earlier with registry } := by
  obtain ⟨receiver, hsink, h⟩ := Option.bind_eq_some_iff.1 h
  obtain ⟨queue, hqueue, h⟩ := Option.bind_eq_some_iff.1 h
  obtain ⟨message', hmessage, h⟩ := Option.bind_eq_some_iff.1 h
  dsimp only at h
  split at h
  · obtain ⟨rfl, -, -, rfl⟩ := by simpa using h
    exact ⟨receiver, queue, _, hsink, hqueue, hmessage, .inl (registry_setQueue ..), rfl⟩
  · split at h
    · split at h
      · next hsend =>
        obtain ⟨rfl, -, -, rfl⟩ := by simpa using h
        obtain ⟨hrunning, rfl⟩ := send_eq_ok hsend
        rw [isRunning_setQueue] at hrunning
        exact ⟨receiver, queue, _, hsink, hqueue, hmessage,
          .inr ⟨hrunning, by rw [registry_setQueue]⟩, rfl⟩
      · obtain ⟨rfl, -, -, rfl⟩ := by simpa using h
        exact ⟨receiver, queue, _, hsink, hqueue, hmessage, .inl (registry_setQueue ..), rfl⟩
    · obtain ⟨rfl, -, -, rfl⟩ := by simpa using h
      exact ⟨receiver, queue, _, hsink, hqueue, hmessage, .inl (registry_setQueue ..), rfl⟩

end Server

namespace Client

variable {c c' : Client} {earlier : Option Nat} {message : Message} {panic : Option Panic}
  {notices : List Notice}

/-- Sending a message submits it to the pool of a client that runs. -/
theorem send_eq_ok (h : c.send message = .ok (notices, c')) :
    ∃ r, c.life.running = some r ∧
      c' = { c with life := { c.life with running := some (r.submit message).2 } } := by
  rw [send] at h
  split at h
  · simp at h
  · next r hr =>
    exact ⟨r, (Lifecycle.admitSend_eq_ok_iff.1 hr).2, (Prod.mk.inj (Except.ok.inj h)).2.symm⟩

/-- A delivery takes a message out of a queue; a client that runs may send it back. -/
theorem deliver_eq_some (h : c.deliver earlier = some (message, panic, notices, c')) :
    ∃ receiver queue taken, c.life.sink = some receiver ∧ c.queue? earlier = some queue ∧
      queue.queue.head? = some message ∧ taken = c.setQueue (queue.deliver receiver.sink) earlier ∧
        (c' = taken ∨ ∃ r, taken.life.running = some r ∧
          c' = { taken with life := { taken.life with running := some (r.submit message).2 } }) := by
  obtain ⟨receiver, hsink, h⟩ := Option.bind_eq_some_iff.1 h
  obtain ⟨queue, hqueue, h⟩ := Option.bind_eq_some_iff.1 h
  obtain ⟨message', hmessage, h⟩ := Option.bind_eq_some_iff.1 h
  dsimp only at h
  split at h
  · obtain ⟨rfl, -, -, rfl⟩ := by simpa using h
    exact ⟨receiver, queue, _, hsink, hqueue, hmessage, rfl, .inl rfl⟩
  · split at h
    · split at h
      · next hsend =>
        obtain ⟨rfl, -, -, rfl⟩ := by simpa using h
        exact ⟨receiver, queue, _, hsink, hqueue, hmessage, rfl, .inr (send_eq_ok hsend)⟩
      · obtain ⟨rfl, -, -, rfl⟩ := by simpa using h
        exact ⟨receiver, queue, _, hsink, hqueue, hmessage, rfl, .inl rfl⟩
    · obtain ⟨rfl, -, -, rfl⟩ := by simpa using h
      exact ⟨receiver, queue, _, hsink, hqueue, hmessage, rfl, .inl rfl⟩

end Client

namespace Machine

variable {m m' : Machine} {n n' : Network} {now : Nat}

theorem standing?_deliver {earlier : Option Nat} {message : Message} {panic : Option Panic}
    {notices : List Notice} (hdeliver : m.deliver earlier = some (message, panic, notices, m')) :
    m'.standing? = m.standing? := by
  cases m with
  | server s =>
      obtain ⟨⟨_, _, _, s'⟩, hs, hdeliver⟩ := Option.bind_eq_some_iff.1 hdeliver
      obtain ⟨-, -, -, rfl⟩ := by simpa using hdeliver
      obtain ⟨receiver, queue, registry, -, -, -, -, rfl⟩ := Server.deliver_eq_some hs
      cases earlier with
      | none => exact standing?_server s _ registry _
      | some k => rfl
  | client c =>
      obtain ⟨⟨_, _, _, c'⟩, hc, hdeliver⟩ := Option.bind_eq_some_iff.1 hdeliver
      obtain ⟨-, -, -, rfl⟩ := by simpa using hdeliver
      have hqueue : ∀ queue, (client (c.setQueue queue earlier)).standing? =
          (client c).standing? := fun queue => by
        cases earlier with
        | none => exact standing?_client c _ _
        | some k => rfl
      obtain ⟨receiver, queue, taken, -, -, -, rfl, rfl | ⟨r, hr, rfl⟩⟩ := Client.deliver_eq_some hc
      · exact hqueue _
      · exact (standing?_setRound (m := client (c.setQueue _ earlier)) hr _).trans (hqueue _)
  | pool r =>
      rw [deliver] at hdeliver
      cases earlier with
      | none =>
          obtain ⟨message', -, heq⟩ := Option.bind_eq_some_iff.1 hdeliver
          obtain ⟨-, -, -, rfl⟩ := by simpa using heq
          rfl
      | some k => simp at hdeliver

/-- The queue to the sink of the round that runs, or of an earlier round. -/
def queue? (m : Machine) : (earlier : Option Nat) → Option SinkQueue
  | none => m.hub?.map (·.queue)
  | some k => m.retired[k]?

/-- What is delivered stood first in a queue. -/
theorem queue?_of_deliver {earlier : Option Nat} {message : Message} {panic : Option Panic}
    {notices : List Notice} (hdeliver : m.deliver earlier = some (message, panic, notices, m')) :
    ∃ queue, m.queue? earlier = some queue ∧ queue.queue.head? = some message := by
  cases m with
  | server s =>
      obtain ⟨⟨_, _, _, s'⟩, hs, hdeliver⟩ := Option.bind_eq_some_iff.1 hdeliver
      obtain ⟨rfl, -, -, -⟩ := by simpa using hdeliver
      obtain ⟨receiver, queue, registry, -, hqueue, hmessage, -⟩ := Server.deliver_eq_some hs
      refine ⟨queue, ?_, hmessage⟩
      rw [← hqueue]
      cases earlier with
      | none => exact Option.map_map ..
      | some k => rfl
  | client c =>
      obtain ⟨⟨_, _, _, c'⟩, hc, hdeliver⟩ := Option.bind_eq_some_iff.1 hdeliver
      obtain ⟨rfl, -, -, -⟩ := by simpa using hdeliver
      obtain ⟨receiver, queue, taken, -, hqueue, hmessage, -⟩ := Client.deliver_eq_some hc
      refine ⟨queue, ?_, hmessage⟩
      rw [← hqueue]
      cases earlier with
      | none => exact Option.map_map ..
      | some k => rfl
  | pool r =>
      rw [deliver] at hdeliver
      cases earlier with
      | none =>
          obtain ⟨message', hmessage, heq⟩ := Option.bind_eq_some_iff.1 hdeliver
          obtain ⟨rfl, -, -, -⟩ := by simpa using heq
          exact ⟨r.hub.queue, rfl, hmessage⟩
      | some k => simp at hdeliver

/-- **What a connector does by itself leaves its standing as it is.** -/
theorem Moves.standing?_eq (h : m.Moves now n n' m') : m'.standing? = m.standing? := by
  cases h with
  | accept hm hround haccept remote =>
      rw [hm]
      exact standing?_server _ _ _ _
  | react hhub ha hnetwork htaken hreact =>
      rw [standing?_react hreact]
      rcases htaken with rfl | rfl
      · rfl
      · exact standing?_takePayload m _
  | dispatch hdispatch => exact standing?_dispatch hdispatch
  | deliver hdeliver => exact standing?_deliver hdeliver
  | dial hr => exact standing?_setRound hr _
  | settle hr => exact standing?_setRound hr _
  | giveUp hr => exact standing?_setRound hr _
  | evict hr => exact standing?_setRound hr _

end Machine

end Framewire
