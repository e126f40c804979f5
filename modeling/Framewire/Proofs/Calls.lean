/-
**The connections between a server and its clients.**

Each client that sends to a server has a *call*: its slot waits for a dial, dials, or is connected
to the server.  A connection has a number, which is that of its enrolment, the sockets of twice this
number and the next one, an address, which is the client's end of it, and two flows.  What a world
holds of a connection is spread over the client, the network and the server, told apart by its
number and its address; this is its *line*.  A move of one connector is about one call: its line
changes, and the lines of all other calls stay as they are.

Main definitions:

* `Exchange.Stage`, `Exchange.Call` — how far the connection of a client has come;
* `Exchange.Hall`, `Exchange.Line`, `Exchange.line` — what a server works on, and what there is of a
  connection;
* `Exchange.Fits`, `Exchange.Desk` — a line, or a client, is as its call says;
* `Exchange.Orderly` — numbers and addresses are as they should be;
* `Exchange.Holds` — a world holds calls.

Main results:

* `Exchange.Holds.change` — where one call changes and the lines of the others stay, a world goes on
  to hold calls;
* `Exchange.Holds.change_server`, `Exchange.Holds.change_client` — the server moves, or a client.
-/

import Framewire.Proofs.Flows
import Framewire.Proofs.PlainConnectors
import Framewire.Proofs.RegistryRouting
import Mathlib.Data.Finset.Card

set_option autoImplicit false

namespace Framewire

open Framewire.Frame

/-- A directory grows by an endpoint that had no value. -/
theorem Directory.size_insert_of_none {α : Type} {d : Directory α} {e : Endpoint}
    (h : d.get? e = none) (a : α) : (d.insert e a).size = d.size + 1 := by
  have herase : (d.erase e).entries = d.entries := by
    refine List.filter_eq_self.2 fun entry hentry => decide_eq_true ?_
    rw [get?, Option.map_eq_none_iff, List.find?_eq_none] at h
    simpa using h entry hentry
  rw [size, insert, List.length_cons, herase, size]

namespace Exchange

/-! ### Calls -/

/-- How far the connection of a client to the server has come. -/
inductive Stage where
  /-- nothing was sent -/
  | unused
  /-- a slot waits with its payloads -/
  | waiting (queue : List Bytes)
  /-- a slot dials, holding its first payload -/
  | dialing (first : Bytes) (queue : List Bytes)
  /-- the client is connected; `up` is what goes to the server, `down` what comes from it -/
  | connected (number : Nat) (address : Endpoint) (up down : Flow)

/-- A client, the address at which it dials the server, and how far that has come. -/
structure Call where
  dialed : Endpoint
  stage : Stage := .unused

namespace Stage

/-- The number and the address of the connection. -/
def link? : Stage → Option (Nat × Endpoint)
  | connected number address _ _ => some (number, address)
  | _ => none

/-- Everything that the client was asked to send. -/
def offered : Stage → List Bytes
  | unused => []
  | waiting queue => queue
  | dialing first queue => first :: queue
  | connected _ _ up _ => up.offered

/-- Everything that the server was asked to send to the client. -/
def answered : Stage → List Bytes
  | connected _ _ _ down => down.offered
  | _ => []

/-- The client's pool. -/
def pool (dialed : Endpoint) : Stage → Pool Bytes
  | unused => {}
  | waiting queue => .solo dialed queue .waiting
  | dialing first queue => .solo dialed queue (.dialing first)
  | connected _ _ up _ => .solo dialed up.waiting .connected

/-- The messages that wait for the client's sink. -/
def queued : Stage → List Message
  | connected _ _ _ down => down.queued
  | _ => []

/-- The messages that the client's sink took. -/
def taken : Stage → List Message
  | connected _ _ _ down => down.taken
  | _ => []

/-- Payloads are whole frames, the flows of a connection are sound, and a client whose slot is in use
was asked to send something. -/
def Sound (dialed : Endpoint) : Stage → Prop
  | unused => True
  | waiting queue => queue ≠ [] ∧ ∀ payload ∈ queue, Whole payload
  | dialing first queue => ∀ payload ∈ first :: queue, Whole payload
  | connected _ address up down => up.Sound address ∧ down.Sound dialed ∧ up.offered ≠ []

end Stage

/-! ### What there is of a connection -/

/-- What a server works on: its registry, its connections, and what its sink took. -/
structure Hall where
  registry : Registry
  hub : Hub
  received : List Message

/-- What the network and the server hold of one connection. -/
structure Line where
  /-- the client's socket -/
  near : Option Socket
  /-- the server's socket -/
  far : Option Socket
  enrolment : Option Enrolment
  /-- the current enrolment of the client's address -/
  current : Option Nat
  attached : Option Attached
  /-- the messages from the client that wait for the sink -/
  queued : List Message
  /-- the messages from the client that the sink took, in order -/
  received : List Message

/-- The line of the connection of a number, which a client has made from an address. -/
def line (n : Network) (h : Hall) (number : Nat) (address : Endpoint) : Line where
  near := n.socket? (2 * number)
  far := n.socket? (2 * number + 1)
  enrolment := h.registry.enrolment? number
  current := h.registry.current.get? address
  attached := h.hub.attached? number
  queued := h.hub.queue.queue.filter (·.remote = address)
  received := h.received.reverse.filter (·.remote = address)

/-- Whether the server has taken a connection in, and what it holds of it then. -/
inductive Seated (number : Nat) (address : Endpoint) (up down : Flow) (l : Line) : Prop where
  | pending (henrolment : l.enrolment = none) (hattached : l.attached = none)
      (hwaiting : down.waiting = []) (hframer : up.framer = Framer.new address)
      (hundelivered : up.undelivered = [])
  | taken (henrolment : l.enrolment = some ⟨address, down.waiting, true⟩)
      (hcurrent : l.current = some number) {handler : Handler}
      (hattached : l.attached = some ⟨number, 2 * number + 1, handler⟩)
      (hhandles : Handles up handler)

/-- What the server holds of a connection does not change as long as the payloads for the client that
wait and the reader of what comes from it do not change. -/
theorem Seated.congr {number : Nat} {address : Endpoint} {up up' down down' : Flow} {l l' : Line}
    (h : Seated number address up down l) (henrolment : l'.enrolment = l.enrolment)
    (hcurrent : l'.current = l.current) (hattached : l'.attached = l.attached)
    (hwaiting : down'.waiting = down.waiting) (hframer : up'.framer = up.framer)
    (hundelivered : up'.undelivered = up.undelivered) : Seated number address up' down' l' := by
  cases h with
  | pending h₁ h₂ h₃ h₄ h₅ =>
      exact .pending (henrolment.trans h₁) (hattached.trans h₂) (hwaiting.trans h₃)
        (hframer.trans h₄) (hundelivered.trans h₅)
  | taken h₁ h₂ h₃ h₄ =>
      rw [← hwaiting] at h₁
      exact .taken (henrolment.trans h₁) (hcurrent.trans h₂) (hattached.trans h₃)
        ⟨h₄.framer.trans hframer.symm, h₄.undelivered.trans hundelivered.symm⟩

/-- A line is as the flows of its connection say. -/
structure Fits (dialed : Endpoint) (number : Nat) (address : Endpoint) (up down : Flow) (l : Line) :
    Prop where
  near : l.near = some
    { here := address, there := dialed, twin := 2 * number + 1, arrived := down.arrived }
  far : l.far = some
    { here := dialed, there := address, twin := 2 * number, arrived := up.arrived }
  seated : Seated number address up down l
  queued : l.queued = up.queued
  received : l.received = up.taken

/-- The connections of a client are as its stage says. -/
def Attends (hub : Hub) : Stage → Prop
  | .connected number _ _ down => ∃ handler, Handles down handler ∧
      ∀ id, hub.attached? id = if id = 1 then some ⟨1, 2 * number, handler⟩ else none
  | _ => ∀ id, hub.attached? id = none

/-- A client is as its stage says. -/
structure Desk (dialed : Endpoint) (stage : Stage) (r : Client.Round) (received : List Message) :
    Prop where
  pool : r.pool = stage.pool dialed
  attends : Attends r.hub stage
  queued : r.hub.queue.queue = stage.queued
  received : received.reverse = stage.taken
  delivering : r.hub.queue.ended = false
  room : 0 < r.hub.queue.capacity

/-- The numbers and addresses of connections: connections were made under the next number and from
the next port each, and taken in in this order; no two of them have the same number or the same
address; and the server has messages and enrolments of connections only. -/
structure Orderly (links : List (Option (Nat × Endpoint))) (n : Network) (h : Hall) (made : Nat) :
    Prop where
  obstacle : n.host.obstacle = none
  silent : n.silent = []
  listener : (n.listener? 0).isSome = true
  sockets : n.sockets.length = 2 * made
  taken : h.registry.nextId ≤ made
  backlog : n.backlog 0 =
    (List.range' h.registry.nextId (made - h.registry.nextId)).map (2 * · + 1)
  size : h.registry.size = h.registry.nextId
  attached : ∀ id, h.registry.nextId ≤ id → h.hub.attached? id = none
  delivering : h.hub.queue.ended = false
  room : 0 < h.hub.queue.capacity
  messages : ∀ m ∈ h.hub.queue.queue ++ h.received, ∃ (i number : Nat),
    links[i]? = some (some (number, m.remote))
  current : ∀ {address number}, h.registry.current.get? address = some number →
    number < h.registry.nextId ∧ ∃ i : Nat, links[i]? = some (some (number, address))
  owner : ∀ {number}, number < made → ∃ (i : Nat) (address : Endpoint),
    links[i]? = some (some (number, address))
  number_lt : ∀ {i number : Nat} {address : Endpoint},
    links[i]? = some (some (number, address)) → number < made
  number_inj : ∀ {i j number : Nat} {address address' : Endpoint},
    links[i]? = some (some (number, address)) → links[j]? = some (some (number, address')) → i = j
  address_inj : ∀ {i j number number' : Nat} {address : Endpoint},
    links[i]? = some (some (number, address)) → links[j]? = some (some (number', address)) → i = j
  ports : made ≤ n.given
  port : ∀ {i number : Nat} {address : Endpoint}, links[i]? = some (some (number, address)) →
    address.port = n.host.port (n.given - made + number)

/-- The numbers and the addresses of all connections. -/
def links (calls : List Call) : List (Option (Nat × Endpoint)) := calls.map (·.stage.link?)

/-- A world holds one call. -/
structure HoldsCall (w : World) (h : Hall) (i : Nat) (call : Call) : Prop where
  sound : call.stage.Sound call.dialed
  desk : ∃ config r received, w.node? (i + 1) = some ⟨.client (.plain config r), received⟩ ∧
    Desk call.dialed call.stage r received
  fits : ∀ {number address up down}, call.stage = .connected number address up down →
    Fits call.dialed number address up down (line w.network h number address)

/-- A world holds calls: its first connector is the server, and the others are the clients. -/
structure Holds (calls : List Call) (w : World) (h : Hall) (made : Nat) : Prop where
  hall : ∃ config address,
    w.node? 0 = some ⟨.server (.plain config address h.registry h.hub), h.received⟩
  length : w.nodes.length = calls.length + 1
  reach : ∀ call ∈ calls, w.network.listenerAt? call.dialed = some 0
  orderly : Orderly (links calls) w.network h made
  call : ∀ {i call}, calls[i]? = some call → HoldsCall w h i call

variable {calls : List Call} {call call' : Call} {w : World} {h h' : Hall} {made made' i j : Nat}
  {number : Nat} {address dialed : Endpoint} {up down up' down' : Flow} {network : Network}

/-! ### Calls in a list -/

theorem links_of_connected (hi : calls[i]? = some call)
    (hstage : call.stage = .connected number address up down) :
    (links calls)[i]? = some (some (number, address)) := by
  rw [links, List.getElem?_map, hi, Option.map_some, hstage]
  rfl

theorem exists_connected (hlink : (links calls)[i]? = some (some (number, address))) :
    ∃ call up down, calls[i]? = some call ∧ call.stage = .connected number address up down := by
  rw [links, List.getElem?_map] at hlink
  obtain ⟨call, hi, hcall⟩ := Option.map_eq_some_iff.1 hlink
  cases hstage : call.stage with
  | connected number' address' up down =>
      rw [hstage] at hcall
      obtain ⟨rfl, rfl⟩ := Prod.mk.inj (Option.some.inj hcall)
      exact ⟨call, up, down, hi, hstage⟩
  | unused => simp [hstage, Stage.link?] at hcall
  | waiting queue => simp [hstage, Stage.link?] at hcall
  | dialing first queue => simp [hstage, Stage.link?] at hcall

theorem getElem?_set_self (hi : calls[i]? = some call) (call' : Call) :
    (calls.set i call')[i]? = some call' := by
  obtain ⟨hlt, -⟩ := List.getElem?_eq_some_iff.1 hi
  rw [List.getElem?_set, if_pos rfl, if_pos hlt]

theorem set_eq_self (hi : calls[i]? = some call) : calls.set i call = calls := by
  obtain ⟨hlt, rfl⟩ := List.getElem?_eq_some_iff.1 hi
  exact List.set_getElem_self hlt

/-- A property of a call that stays where the call changes is the same all over the list. -/
theorem map_set_of_eq {β : Type} {f : Call → β} (hi : calls[i]? = some call)
    (hf : f call' = f call) : (calls.set i call').map f = calls.map f := by
  refine List.ext_getElem? fun k => ?_
  rw [List.getElem?_map, List.getElem?_map, List.getElem?_set]
  split
  · next heq =>
    subst heq
    obtain ⟨hlt, -⟩ := List.getElem?_eq_some_iff.1 hi
    rw [if_pos hlt, hi, Option.map_some, Option.map_some, hf]
  · rfl

/-! ### Where one call changes -/

/-- The lines of all calls but one are the same. -/
def SameElsewhere (links : List (Option (Nat × Endpoint))) (i : Nat) (n n' : Network)
    (h h' : Hall) : Prop :=
  ∀ (j number : Nat) (address : Endpoint), j ≠ i → links[j]? = some (some (number, address)) →
    line n' h' number address = line n h number address

/-- Lines of other numbers and other addresses are those of other calls. -/
theorem Orderly.sameElsewhere {links : List (Option (Nat × Endpoint))} {n n' : Network}
    (ho : Orderly links n h made) (hi : links[i]? = some (some (number, address)))
    (hsame : ∀ other remote, other ≠ number → remote ≠ address →
      line n' h' other remote = line n h other remote) : SameElsewhere links i n n' h h' := by
  intro j other remote hj hlink
  refine hsame other remote ?_ ?_
  · rintro rfl
    exact hj (ho.number_inj hlink hi)
  · rintro rfl
    exact hj (ho.address_inj hlink hi)

/-- Another call, another client or another line: what was held of it is held of it. -/
theorem HoldsCall.keep {w' : World} (hc : HoldsCall w h j call)
    (hnode : w'.node? (j + 1) = w.node? (j + 1))
    (hline : ∀ number address, call.stage.link? = some (number, address) →
      line w'.network h' number address = line w.network h number address) :
    HoldsCall w' h' j call where
  sound := hc.sound
  desk := by
    obtain ⟨config, r, received, hn, hdesk⟩ := hc.desk
    exact ⟨config, r, received, hnode.trans hn, hdesk⟩
  fits := by
    intro number address up down hstage
    rw [hline number address (by rw [hstage]; rfl)]
    exact hc.fits hstage

/-- **Where one call changes and the lines of the others stay, a world goes on to hold calls.** -/
theorem Holds.change (hh : Holds calls w h made) (w' : World) (h' : Hall) (made' : Nat)
    (call' : Call) (hi : calls[i]? = some call)
    (hdialed : call'.dialed = call.dialed)
    (hhall : ∃ config address,
      w'.node? 0 = some ⟨.server (.plain config address h'.registry h'.hub), h'.received⟩)
    (hlength : w'.nodes.length = w.nodes.length)
    (hreach : ∀ address, w'.network.listenerAt? address = w.network.listenerAt? address)
    (horderly : Orderly (links (calls.set i call')) w'.network h' made')
    (hnode : ∀ j, j ≠ i → w'.node? (j + 1) = w.node? (j + 1))
    (hsame : SameElsewhere (links calls) i w.network w'.network h h')
    (hcall : HoldsCall w' h' i call') : Holds (calls.set i call') w' h' made' where
  hall := hhall
  length := by rw [hlength, hh.length, List.length_set]
  reach := by
    intro other hother
    rw [hreach]
    rcases List.mem_or_eq_of_mem_set hother with hmem | rfl
    · exact hh.reach other hmem
    · rw [hdialed]
      exact hh.reach call (List.mem_of_getElem? hi)
  orderly := horderly
  call := by
    intro j other hj
    by_cases hji : j = i
    · subst hji
      obtain rfl := Option.some.inj ((getElem?_set_self hi call').symm.trans hj)
      exact hcall
    · rw [List.getElem?_set, if_neg (Ne.symm hji)] at hj
      refine (hh.call hj).keep (hnode j hji) fun number address hlink => ?_
      refine hsame j number address hji ?_
      rw [links, List.getElem?_map, hj, Option.map_some, hlink]

/-- A connector of a world is replaced by one of the same kind; where it is the server that moves, no
client changes. -/
theorem Holds.change_server (hh : Holds calls w h made) (network : Network) (h' : Hall)
    (up' down' : Flow)
    (hi : calls[i]? = some ⟨dialed, .connected number address up down⟩) {config : ServerConfig}
    {own : Endpoint}
    (hn : w.node? 0 = some ⟨.server (.plain config own h.registry h.hub), h.received⟩)
    (hreach : ∀ remote, network.listenerAt? remote = w.network.listenerAt? remote)
    (horderly : Orderly (links calls) network h' made)
    (hsame : ∀ other remote, other ≠ number → remote ≠ address →
      line network h' other remote = line w.network h other remote)
    (hsound : up'.Sound address ∧ down'.Sound dialed ∧ up'.offered ≠ [])
    (hdesk : ∀ r received, Desk dialed (.connected number address up down) r received →
      Desk dialed (.connected number address up' down') r received)
    (hfits : Fits dialed number address up' down' (line network h' number address))
    (notices : List Notice) :
    Holds (calls.set i ⟨dialed, .connected number address up' down'⟩)
      (w.set 0 ⟨.server (.plain config own h'.registry h'.hub), h'.received⟩ network notices) h'
      made := by
  have hnode : ∀ j, (w.set 0 ⟨.server (.plain config own h'.registry h'.hub), h'.received⟩ network
      notices).node? (j + 1) = w.node? (j + 1) := by
    intro j
    rw [World.node?_set hn, if_neg (Nat.succ_ne_zero j)]
  have hlink := links_of_connected hi rfl
  have hlinks : links (calls.set i ⟨dialed, .connected number address up' down'⟩) = links calls :=
    map_set_of_eq hi rfl
  refine hh.change _ h' made _ hi rfl ⟨config, own, ?_⟩ List.length_set hreach ?_ (fun j _ => hnode j)
    (hh.orderly.sameElsewhere hlink hsame) ?_
  · rw [World.node?_set hn, if_pos rfl]
  · rw [hlinks]
    exact horderly
  · refine ⟨hsound, ?_, ?_⟩
    · obtain ⟨config', r, received, hr, hd⟩ := (hh.call hi).desk
      exact ⟨config', r, received, (hnode i).trans hr, hdesk r received hd⟩
    · intro _ _ _ _ hstage
      obtain ⟨rfl, rfl, rfl, rfl⟩ := Stage.connected.inj hstage
      exact hfits

/-- Where a client moves that is connected, the server does not change. -/
theorem Holds.change_client (hh : Holds calls w h made) (network : Network) (r' : Client.Round)
    (received' : List Message) (up' down' : Flow)
    (hi : calls[i]? = some ⟨dialed, .connected number address up down⟩) {config : ClientConfig}
    {r : Client.Round} {received : List Message}
    (hn : w.node? (i + 1) = some ⟨.client (.plain config r), received⟩)
    (hreach : ∀ remote, network.listenerAt? remote = w.network.listenerAt? remote)
    (horderly : Orderly (links calls) network h made)
    (hsame : ∀ other remote, other ≠ number → remote ≠ address →
      line network h other remote = line w.network h other remote)
    (hsound : up'.Sound address ∧ down'.Sound dialed ∧ up'.offered ≠ [])
    (hdesk : Desk dialed (.connected number address up' down') r' received')
    (hfits : Fits dialed number address up' down' (line network h number address))
    (notices : List Notice) :
    Holds (calls.set i ⟨dialed, .connected number address up' down'⟩)
      (w.set (i + 1) ⟨.client (.plain config r'), received'⟩ network notices) h made := by
  have hlink := links_of_connected hi rfl
  have hlinks : links (calls.set i ⟨dialed, .connected number address up' down'⟩) = links calls :=
    map_set_of_eq hi rfl
  refine hh.change _ h made _ hi rfl ?_ List.length_set hreach ?_ ?_
    (hh.orderly.sameElsewhere hlink hsame) ?_
  · obtain ⟨config', own, hserver⟩ := hh.hall
    exact ⟨config', own, by rw [World.node?_set hn, if_neg (Nat.succ_ne_zero i).symm, hserver]⟩
  · rw [hlinks]
    exact horderly
  · intro j hj
    rw [World.node?_set hn, if_neg (by omega)]
  · refine ⟨hsound, ⟨config, r', received', ?_, hdesk⟩, ?_⟩
    · rw [World.node?_set hn, if_pos rfl]
    · intro _ _ _ _ hstage
      obtain ⟨rfl, rfl, rfl, rfl⟩ := Stage.connected.inj hstage
      exact hfits

/-- Where a client moves that is not connected, before or after, nothing else changes. -/
theorem Holds.change_caller (hh : Holds calls w h made) (stage : Stage) (r' : Client.Round)
    (hi : calls[i]? = some call) (hlink : call.stage.link? = none) (hlink' : stage.link? = none)
    {config : ClientConfig} {r : Client.Round} {received : List Message}
    (hn : w.node? (i + 1) = some ⟨.client (.plain config r), received⟩)
    (hsound : stage.Sound call.dialed) (hdesk : Desk call.dialed stage r' received)
    (notices : List Notice) :
    Holds (calls.set i ⟨call.dialed, stage⟩)
      (w.set (i + 1) ⟨.client (.plain config r'), received⟩ w.network notices) h made := by
  refine hh.change _ h made _ hi rfl ?_ List.length_set (fun _ => rfl) ?_ ?_
    (fun _ _ _ _ _ => rfl) ?_
  · obtain ⟨config', own, hserver⟩ := hh.hall
    exact ⟨config', own, by rw [World.node?_set hn, if_neg (Nat.succ_ne_zero i).symm, hserver]⟩
  · rw [links, map_set_of_eq hi (hlink'.trans hlink.symm)]
    exact hh.orderly
  · intro j hj
    rw [World.node?_set hn, if_neg (by omega)]
  · refine ⟨hsound, ⟨config, r', received, ?_, hdesk⟩, ?_⟩
    · rw [World.node?_set hn, if_pos rfl]
    · intro _ _ _ _ hstage
      dsimp only at hstage
      rw [hstage] at hlink'
      simp [Stage.link?] at hlink'

/-! ### Keeping numbers and addresses in order -/

namespace Orderly

variable {links : List (Option (Nat × Endpoint))} {n : Network}

/-- Whatever changes only sockets keeps the order. -/
theorem modifySocket (ho : Orderly links n h made) (id : Nat) (f : Socket → Socket) :
    Orderly links (n.modifySocket id f) h made :=
  { ho with
    sockets := (Network.length_modifySocket n id f).trans ho.sockets }

/-- A change of the server that leaves the numbers and the addresses of its enrolments, attaches
nothing, and gets no message from elsewhere keeps the order. -/
theorem setHall (ho : Orderly links n h made) (hnext : h'.registry.nextId = h.registry.nextId)
    (hcurrent : h'.registry.current = h.registry.current)
    (hattached : ∀ id, h.hub.attached? id = none → h'.hub.attached? id = none)
    (hdelivering : h'.hub.queue.ended = h.hub.queue.ended)
    (hroom : h'.hub.queue.capacity = h.hub.queue.capacity)
    (hmessages : ∀ m ∈ h'.hub.queue.queue ++ h'.received,
      m ∈ h.hub.queue.queue ++ h.received ∨ ∃ (i number : Nat),
        links[i]? = some (some (number, m.remote))) : Orderly links n h' made where
  obstacle := ho.obstacle
  silent := ho.silent
  listener := ho.listener
  sockets := ho.sockets
  taken := hnext ▸ ho.taken
  backlog := hnext ▸ ho.backlog
  size := by
    rw [hnext, ← ho.size, Registry.size, Registry.size, hcurrent]
  attached := by
    intro id hid
    rw [hnext] at hid
    exact hattached id (ho.attached id hid)
  delivering := hdelivering.trans ho.delivering
  room := hroom ▸ ho.room
  messages := by
    intro m hm
    rcases hmessages m hm with hm | hm
    · exact ho.messages m hm
    · exact hm
  current := by
    intro address number hget
    rw [hcurrent] at hget
    rw [hnext]
    exact ho.current hget
  owner := ho.owner
  number_lt := ho.number_lt
  number_inj := ho.number_inj
  address_inj := ho.address_inj
  ports := ho.ports
  port := ho.port

/-- A handler of the server goes on. -/
theorem setHandler (ho : Orderly links n h made) (id : Nat) (handler : Handler) :
    Orderly links n { h with hub := h.hub.setHandler id handler } made := by
  refine ho.setHall rfl rfl (fun i hi => ?_) rfl rfl (fun m hm => .inl hm)
  rw [Hub.attached?_setHandler, hi]
  split <;> rfl

/-- The connection that is taken in next. -/
theorem backlog_cons (ho : Orderly links n h made) {socket : Nat} {rest : List Nat}
    (hbacklog : n.backlog 0 = socket :: rest) :
    h.registry.nextId < made ∧ socket = 2 * h.registry.nextId + 1 ∧
      rest = (List.range' (h.registry.nextId + 1) (made - (h.registry.nextId + 1))).map
        (2 * · + 1) := by
  have heq := ho.backlog.symm.trans hbacklog
  cases hleft : made - h.registry.nextId with
  | zero =>
      rw [hleft] at heq
      simp at heq
  | succ left =>
      have hleft' : made - (h.registry.nextId + 1) = left := by omega
      rw [hleft, List.range'_succ, List.map_cons, List.cons.injEq] at heq
      rw [hleft']
      exact ⟨by omega, heq.1.symm, heq.2.symm⟩

/-- When no connection waits, all were taken in. -/
theorem nextId_of_backlog (ho : Orderly links n h made) (hbacklog : n.backlog 0 = []) :
    h.registry.nextId = made := by
  have heq := congrArg List.length (ho.backlog.symm.trans hbacklog)
  rw [List.length_map, List.length_range', List.length_nil] at heq
  have := ho.taken
  omega

/-- An address whose connection was not taken in has no enrolment. -/
theorem current_eq_none (ho : Orderly links n h made)
    (hlink : links[i]? = some (some (number, address))) (hnumber : h.registry.nextId ≤ number) :
    h.registry.current.get? address = none := by
  cases hget : h.registry.current.get? address with
  | none => rfl
  | some other =>
      obtain ⟨hlt, j, hother⟩ := ho.current hget
      obtain rfl := ho.address_inj hlink hother
      obtain ⟨rfl, -⟩ := Prod.mk.inj (Option.some.inj (Option.some.inj (hlink.symm.trans hother)))
      exact absurd hlt (Nat.not_lt.2 hnumber)

/-- The server takes a connection in. -/
theorem accept (ho : Orderly links n h made) {rest : List Nat}
    (hbacklog : n.backlog 0 = (2 * h.registry.nextId + 1) :: rest)
    (hlink : links[i]? = some (some (h.registry.nextId, address))) (handler : Handler) :
    Orderly links (n.modifyListener 0 fun l => { l with backlog := rest }) { h with
      registry := (h.registry.enrol address).2
      hub := h.hub.attach h.registry.nextId (2 * h.registry.nextId + 1) handler } made where
  obstacle := ho.obstacle
  silent := ho.silent
  listener := by
    rw [Network.listener?_modifyListener, Option.isSome_map]
    exact ho.listener
  sockets := ho.sockets
  taken := by
    rw [Registry.nextId_enrol]
    exact (ho.backlog_cons hbacklog).1
  backlog := by
    rw [Network.backlog_accept hbacklog, Registry.nextId_enrol]
    exact (ho.backlog_cons hbacklog).2.2
  size := by
    have hsize : h.registry.current.size = h.registry.nextId := ho.size
    change (h.registry.current.insert address h.registry.nextId).size = _
    rw [Directory.size_insert_of_none (ho.current_eq_none hlink (Nat.le_refl _)), hsize,
      Registry.nextId_enrol]
  attached := by
    intro id hid
    rw [Registry.nextId_enrol] at hid
    rw [Hub.attached?_attach, ho.attached id (Nat.le_of_succ_le hid), if_neg (by omega)]
    rfl
  delivering := ho.delivering
  room := ho.room
  messages := ho.messages
  current := by
    intro remote number hget
    change (h.registry.current.insert address h.registry.nextId).get? remote = some number at hget
    rw [Directory.get?_insert] at hget
    rw [Registry.nextId_enrol]
    split at hget
    · next heq =>
      obtain rfl := Option.some.inj hget
      exact ⟨Nat.lt_succ_self _, i, heq ▸ hlink⟩
    · obtain ⟨hlt, hother⟩ := ho.current hget
      exact ⟨Nat.lt_succ_of_lt hlt, hother⟩
  owner := ho.owner
  number_lt := ho.number_lt
  number_inj := ho.number_inj
  address_inj := ho.address_inj
  ports := ho.ports
  port := ho.port

/-- The number of connections is that of the clients that have one. -/
theorem made_eq (ho : Orderly links n h made) :
    made = ((Finset.range links.length).filter fun i => (links[i]?.join).isSome).card := by
  have hmem : ∀ i, i ∈ (Finset.range links.length).filter (fun i => (links[i]?.join).isSome) ↔
      ∃ number address, links[i]? = some (some (number, address)) := by
    intro i
    rw [Finset.mem_filter, Finset.mem_range, Option.isSome_iff_exists]
    constructor
    · rintro ⟨-, ⟨number, address⟩, hlink⟩
      exact ⟨number, address, Option.join_eq_some_iff.1 hlink⟩
    · rintro ⟨number, address, hlink⟩
      exact ⟨(List.getElem?_eq_some_iff.1 hlink).1, _, Option.join_eq_some_iff.2 hlink⟩
  have hnumber : ∀ {i number : Nat} {address : Endpoint},
      links[i]? = some (some (number, address)) →
        ((links[i]?.join).map Prod.fst).getD 0 = number := by
    intro i number address hlink
    rw [hlink]
    rfl
  -- each client that has a connection is matched with its number
  refine (Finset.card_range made).symm.trans (Finset.card_bij
    (fun i _ => ((links[i]?.join).map Prod.fst).getD 0) ?_ ?_ ?_).symm
  · intro i hi
    obtain ⟨number, address, hlink⟩ := (hmem i).1 hi
    rw [hnumber hlink, Finset.mem_range]
    exact ho.number_lt hlink
  · intro i hi j hj heq
    obtain ⟨number, address, hlink⟩ := (hmem i).1 hi
    obtain ⟨number', address', hlink'⟩ := (hmem j).1 hj
    rw [hnumber hlink, hnumber hlink'] at heq
    subst heq
    exact ho.number_inj hlink hlink'
  · intro number hlt
    obtain ⟨i, address, hlink⟩ := ho.owner (Finset.mem_range.1 hlt)
    exact ⟨i, (hmem i).2 ⟨number, address, hlink⟩, hnumber hlink⟩

/-- Where a client has no connection there are fewer connections than clients. -/
theorem made_lt (ho : Orderly links n h made) (hi : links[i]? = some none) :
    made < links.length := by
  refine ho.made_eq.trans_lt ?_
  refine (Finset.card_lt_card (Finset.filter_ssubset.2 ⟨i, ?_, ?_⟩)).trans_eq (Finset.card_range _)
  · exact Finset.mem_range.2 (List.getElem?_eq_some_iff.1 hi).1
  · rw [hi]
    simp

/-- Every link but one is as it was. -/
theorem getElem?_set_link {link other : Nat × Endpoint} (hi : links[i]? = some none) :
    (links.set i (some link))[j]? = some (some other) ↔
      (j = i ∧ other = link) ∨ links[j]? = some (some other) := by
  obtain ⟨hlt, -⟩ := List.getElem?_eq_some_iff.1 hi
  rw [List.getElem?_set]
  by_cases hji : j = i
  · subst hji
    rw [if_pos rfl, if_pos hlt, hi]
    simp [eq_comm]
  · simp [hji, Ne.symm hji]

/-- A client is connected from an address that no other connection has. -/
theorem connect (ho : Orderly links n h made) (hi : links[i]? = some none)
    (hfresh : ∀ (j number : Nat), links[j]? ≠ some (some (number, address)))
    (hport : address.port = n.host.port n.given) (dialed : Endpoint) (f : Socket → Socket) :
    Orderly (links.set i (some (made, address)))
      ((n.takePort.2.connect 0 address dialed).2.modifySocket (2 * made + 1) f) h (made + 1) where
  obstacle := ho.obstacle
  silent := ho.silent
  listener := by
    change ((n.takePort.2.connect 0 address dialed).2.listener? 0).isSome = true
    rw [Network.connect, Network.listener?_modifyListener, Option.isSome_map]
    exact ho.listener
  sockets := by
    rw [Network.length_modifySocket, Network.length_connect]
    change n.sockets.length + 2 = _
    rw [ho.sockets]
    omega
  taken := Nat.le_succ_of_le ho.taken
  backlog := by
    have hlength : made + 1 - h.registry.nextId = made - h.registry.nextId + 1 := by
      have := ho.taken
      omega
    have hlast : h.registry.nextId + (made - h.registry.nextId) = made := by
      have := ho.taken
      omega
    have hbacklog : n.takePort.2.backlog 0 = n.backlog 0 := rfl
    have hsockets : n.takePort.2.sockets.length = 2 * made := ho.sockets
    change (n.takePort.2.connect 0 address dialed).2.backlog 0 = _
    rw [Network.backlog_connect (n := n.takePort.2) ho.listener, hbacklog, ho.backlog, hsockets,
      hlength, List.range'_concat, List.map_append, Nat.one_mul, hlast]
    rfl
  size := ho.size
  attached := ho.attached
  delivering := ho.delivering
  room := ho.room
  messages := by
    intro m hm
    obtain ⟨j, number, hlink⟩ := ho.messages m hm
    exact ⟨j, number, (getElem?_set_link hi).2 (.inr hlink)⟩
  current := by
    intro remote number hget
    obtain ⟨hlt, j, hlink⟩ := ho.current hget
    exact ⟨hlt, j, (getElem?_set_link hi).2 (.inr hlink)⟩
  owner := by
    intro number hlt
    rcases Nat.lt_succ_iff_lt_or_eq.1 hlt with hlt | rfl
    · obtain ⟨j, remote, hlink⟩ := ho.owner hlt
      exact ⟨j, remote, (getElem?_set_link hi).2 (.inr hlink)⟩
    · exact ⟨i, address, (getElem?_set_link hi).2 (.inl ⟨rfl, rfl⟩)⟩
  number_lt := by
    intro j number remote hlink
    rcases (getElem?_set_link hi).1 hlink with ⟨-, heq⟩ | hlink
    · obtain ⟨rfl, -⟩ := Prod.mk.inj heq
      exact Nat.lt_succ_self _
    · exact Nat.lt_succ_of_lt (ho.number_lt hlink)
  number_inj := by
    intro j k number remote remote' hj hk
    rcases (getElem?_set_link hi).1 hj with ⟨rfl, heq⟩ | hj' <;>
      rcases (getElem?_set_link hi).1 hk with ⟨rfl, heq'⟩ | hk'
    · rfl
    · obtain ⟨rfl, -⟩ := Prod.mk.inj heq
      exact absurd (ho.number_lt hk') (Nat.lt_irrefl _)
    · obtain ⟨rfl, -⟩ := Prod.mk.inj heq'
      exact absurd (ho.number_lt hj') (Nat.lt_irrefl _)
    · exact ho.number_inj hj' hk'
  address_inj := by
    intro j k number number' remote hj hk
    rcases (getElem?_set_link hi).1 hj with ⟨rfl, heq⟩ | hj' <;>
      rcases (getElem?_set_link hi).1 hk with ⟨rfl, heq'⟩ | hk'
    · rfl
    · obtain ⟨-, rfl⟩ := Prod.mk.inj heq
      exact absurd hk' (hfresh k number')
    · obtain ⟨-, rfl⟩ := Prod.mk.inj heq'
      exact absurd hj' (hfresh j number)
    · exact ho.address_inj hj' hk'
  ports := Nat.succ_le_succ ho.ports
  port := by
    intro j number remote hlink
    have hfirst : n.given + 1 - (made + 1) = n.given - made := Nat.add_sub_add_right ..
    change remote.port = n.host.port (n.given + 1 - (made + 1) + number)
    rw [hfirst]
    rcases (getElem?_set_link hi).1 hlink with ⟨rfl, heq⟩ | hlink
    · obtain ⟨rfl, rfl⟩ := Prod.mk.inj heq
      rw [hport, Nat.sub_add_cancel ho.ports]
    · exact ho.port hlink

end Orderly

end Exchange

end Framewire
