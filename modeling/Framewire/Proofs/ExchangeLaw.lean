/-
**The exchange law.**

A server and any number of clients are started, and every client dials the server at an address at
which it is reached.  Clients are asked to send frames, the server is asked to send frames to the
addresses that it has connections to, and the connectors read, cut, hand over and write in any order
and in pieces of any size.  When nothing is left to do, the server's sink has taken what each client
sent, in order and from an address that is this client's alone, and each client's sink has taken what
the server sent to this address.  There is nothing left to do after a bounded number of steps.

Main definitions:

* `Exchange.opened` — a server and its clients, when they were started;
* `Exchange.Delivered` — what was sent has reached the sinks that it was for.

Main results:

* `Exchange.tracks_opened` — connectors that were started hold calls of which nothing was sent;
* `Exchange.Tracks.delivered` — at rest everything has been delivered;
* `Exchange.frames_reach_their_sinks` — **the exchange law**.
-/

import Framewire.Proofs.ExchangeRuns

set_option autoImplicit false

namespace Framewire

open Framewire.Frame

/-- A host that counts its ports on from a first one spares as many as there are. -/
theorem Host.spares_of_counting {host : Host} {first count : Nat}
    (hport : ∀ given, host.port given = .ofNat (first + given)) (hcount : count ≤ UInt16.size) :
    host.Spares count := by
  intro i j hij hj heq
  have hnat := congrArg UInt16.toNat heq
  rw [hport, hport, UInt16.toNat_ofNat', UInt16.toNat_ofNat'] at hnat
  rw [UInt16.size] at hcount
  omega

namespace Exchange

/-! ### The beginning -/

/-- A world with another client, which is started. -/
def addClient (w : World) (config : ClientConfig) : Except Fault World :=
  (Program.startConnector w (.client (.new config)) {}).map Prod.snd

/-- A server and its clients, when they were started. -/
def opened (host : Host) (config : ServerConfig) (clients : List ClientConfig) :
    Except Fault World := do
  let (_, w) ← Program.startConnector (World.new host) (.server (.new config)) {}
  clients.foldlM addClient w

variable {host : Host} {config : ServerConfig} {clients : List ClientConfig} {w w' : World}

/-- Clients that are started one after the other have empty pools and nothing for their sinks. -/
theorem addClients_spec (h : clients.foldlM addClient w = .ok w') :
    w'.network = w.network ∧ w'.nodes.length = w.nodes.length + clients.length ∧
      (∀ i < w.nodes.length, w'.node? i = w.node? i) ∧
      ∀ {i : Nat} {c : ClientConfig}, clients[i]? = some c → ∃ queue,
        SinkQueue.start Client.name c.sinkChannelCapacity.toNat = .ok queue ∧
        w'.node? (w.nodes.length + i) = some ⟨.client (.plain c (.new c queue)), []⟩ := by
  induction clients generalizing w with
  | nil =>
      obtain rfl := Except.ok.inj h
      exact ⟨rfl, rfl, fun _ _ => rfl, by simp⟩
  | cons first clients ih =>
      rw [List.foldlM_cons, addClient, Program.startConnector_client] at h
      cases hqueue : SinkQueue.start Client.name first.sinkChannelCapacity.toNat with
      | error fault => simp [hqueue, Except.map, bind, Except.bind] at h
      | ok queue =>
          rw [hqueue] at h
          obtain ⟨hnetwork, hlength, hold, hnew⟩ := ih h
          have hadd : (w.add (.client (.plain first (.new first queue)))).nodes.length =
              w.nodes.length + 1 := List.length_append
          rw [hadd] at hlength hold hnew
          refine ⟨hnetwork, ?_, fun i hi => ?_, ?_⟩
          · rw [hlength, List.length_cons]
            omega
          · rw [hold i (Nat.lt_succ_of_lt hi)]
            exact List.getElem?_append_left hi
          · intro i c hi
            cases i with
            | zero =>
                obtain rfl := Option.some.inj hi
                refine ⟨queue, hqueue, ?_⟩
                rw [Nat.add_zero, hold _ (Nat.lt_succ_self _), World.node?_add]
            | succ i =>
                obtain ⟨queue', hqueue', hnode⟩ := hnew hi
                rw [Nat.add_right_comm, Nat.add_assoc] at hnode
                exact ⟨queue', hqueue', hnode⟩

/-- In a new network numbers and addresses are in order. -/
theorem orderly_opened {links : List (Option (Nat × Endpoint))} {hub : Hub} {listening : Endpoint}
    {given : Nat} (hlink : ∀ (i : Nat) (link : Nat × Endpoint), links[i]? ≠ some (some link))
    (hhost : host.obstacle = none) (hattached : hub.attached = []) (hqueue : hub.queue.queue = [])
    (hended : hub.queue.ended = false) (hcapacity : 0 < hub.queue.capacity) :
    Orderly links { host, listeners := [{ address := listening }], given } ⟨{}, hub, []⟩ 0 where
  obstacle := hhost
  silent := rfl
  listener := rfl
  sockets := rfl
  taken := Nat.le_refl _
  backlog := rfl
  size := rfl
  attached := by
    intro id _
    rw [Hub.attached?, hattached]
    rfl
  delivering := hended
  room := hcapacity
  messages := by
    intro m hm
    simp [hqueue] at hm
  current := by
    intro address number hget
    change (Directory.empty : Directory Nat).get? address = some number at hget
    simp at hget
  owner := fun hlt => absurd hlt (Nat.not_lt_zero _)
  number_lt := fun hi => absurd hi (hlink _ _)
  number_inj := fun hi => absurd hi (hlink _ _)
  address_inj := fun hi => absurd hi (hlink _ _)
  ports := Nat.zero_le _
  port := fun hi => absurd hi (hlink _ _)

/-- First the server is started, then the clients are. -/
theorem opened_eq_ok {configs : List ClientConfig} (h : opened host config configs = .ok w) :
    ∃ result, Program.startConnector (World.new host) (.server (.new config)) {} = .ok result ∧
      configs.foldlM addClient result.2 = .ok w := by
  rw [opened] at h
  cases hserver : Program.startConnector (World.new host) (.server (.new config)) {} with
  | error fault => simp [hserver, bind, Except.bind] at h
  | ok result =>
      rw [hserver] at h
      exact ⟨result, rfl, h⟩

theorem host_opened {configs : List ClientConfig} (h : opened host config configs = .ok w) :
    w.network.host = host := by
  obtain ⟨⟨id, w₀⟩, hserver, hclients⟩ := opened_eq_ok h
  obtain ⟨-, address, hub, listening, given, hnetwork, -⟩ := Program.startConnector_server hserver
  rw [(addClients_spec hclients).1, hnetwork]

/-- Calls of which nothing was sent are not linked. -/
theorem links_unused (callers : List (ClientConfig × Endpoint)) (i : Nat)
    (link : Nat × Endpoint) :
    (links (callers.map fun caller => ⟨caller.2, .unused⟩))[i]? ≠ some (some link) := by
  intro hi
  rw [links, List.map_map, List.getElem?_map] at hi
  obtain ⟨_, -, hlink⟩ := Option.map_eq_some_iff.1 hi
  simp [Stage.link?] at hlink

/-- **Connectors that were started hold calls of which nothing was sent.** -/
theorem tracks_opened {callers : List (ClientConfig × Endpoint)}
    (hopened : opened host config (callers.map Prod.fst) = .ok w) (hhost : host.obstacle = none)
    (hreach : ∀ caller ∈ callers, w.network.listenerAt? caller.2 = some 0) :
    Tracks (callers.map Prod.snd) [] w := by
  obtain ⟨⟨id, w₀⟩, hserver, hclients⟩ := opened_eq_ok hopened
  obtain ⟨-, address, hub, listening, given, hnetwork, hnodes, hattached, hqueue, hended,
    hcapacity⟩ := Program.startConnector_server hserver
  obtain ⟨hnetwork', hlength, hold, hnew⟩ := addClients_spec hclients
  rw [hnetwork] at hnetwork'
  rw [hnodes, List.length_map, List.length_singleton] at hlength
  rw [hnodes] at hold hnew
  refine ⟨callers.map fun caller => ⟨caller.2, .unused⟩, ⟨{}, hub, []⟩, 0, ?_, ?_⟩
  · refine ⟨⟨config, address, ?_⟩, ?_, ?_, ?_, ?_⟩
    · rw [hold 0 (by simp), World.node?, hnodes]
      rfl
    · rw [hlength, List.length_map, Nat.add_comm]
    · intro call hcall
      obtain ⟨caller, hcaller, rfl⟩ := List.mem_map.1 hcall
      exact hreach caller hcaller
    · rw [hnetwork']
      exact orderly_opened (links_unused callers) hhost hattached hqueue hended hcapacity
    · intro i call hi
      rw [List.getElem?_map] at hi
      obtain ⟨⟨c, dialed⟩, hcaller, rfl⟩ := Option.map_eq_some_iff.1 hi
      have hc : (callers.map Prod.fst)[i]? = some c := by rw [List.getElem?_map, hcaller]; rfl
      obtain ⟨queue, hstart, hnode⟩ := hnew hc
      rw [List.length_singleton, Nat.add_comm] at hnode
      rw [SinkQueue.start] at hstart
      split at hstart
      · simp at hstart
      · next hcapacity =>
        obtain rfl := Except.ok.inj hstart
        exact ⟨trivial, ⟨c, _, [], hnode, rfl, fun _ => rfl, rfl, rfl, rfl,
          Nat.pos_of_ne_zero hcapacity⟩, fun hstage => by simp at hstage⟩
  · refine ⟨?_, ?_, ?_, by simp [sent]⟩
    · rw [List.map_map]
      rfl
    · intro i call hi
      rw [List.getElem?_map] at hi
      obtain ⟨caller, -, rfl⟩ := Option.map_eq_some_iff.1 hi
      rfl
    · intro i number call address hi hcall
      exact absurd (links_eq_of_link? hi hcall) (links_unused callers _ _)

/-! ### What has been delivered -/

/-- A client was asked to send something. -/
def Sends (past : List World.Happening) (i : Nat) : Prop := sent (i + 1) past ≠ []

instance (past : List World.Happening) (i : Nat) : Decidable (Sends past i) :=
  inferInstanceAs (Decidable (¬_))

/-- Everything that was sent has reached the sink that it was for: of what the clients sent, the
server's sink has taken that of each client from the client's address, and of what the server sent,
each client's sink has taken what was for this address. -/
structure Delivered (destinations : List Endpoint) (past : List World.Happening) (w : World)
    (address : Nat → Endpoint) : Prop where
  /-- the server has a connection to the address of each client that sent something -/
  connected : ∀ i < destinations.length, Sends past i →
    (w.node? 0).any (·.machine.isConnected (address i)) = true
  distinct : ∀ i < destinations.length, ∀ j < destinations.length, Sends past i → Sends past j →
    address i = address j → i = j
  /-- from the address of a client comes what the client sent, in order -/
  there : ∀ i < destinations.length, Sends past i →
    (w.messages 0).filter (·.remote = address i) =
      (sent (i + 1) past).map fun m => ⟨m.payload, address i⟩
  /-- and nothing else comes -/
  senders : ∀ m ∈ w.messages 0, ∃ i < destinations.length, Sends past i ∧ m.remote = address i
  /-- what the server sent to the address of a client comes to the client, in order -/
  back : ∀ {i : Nat} {dialed : Endpoint}, destinations[i]? = some dialed → Sends past i →
    w.messages (i + 1) =
      ((sent 0 past).filter (·.remote = address i)).map fun m => ⟨m.payload, dialed⟩
  /-- the server sent nothing else -/
  receivers : ∀ m ∈ sent 0 past, ∃ i < destinations.length, Sends past i ∧ m.remote = address i
  /-- to a client that sent nothing, nothing comes -/
  silent : ∀ i < destinations.length, ¬Sends past i → w.messages (i + 1) = []
  connections : w.size 0 = ((Finset.range destinations.length).filter (Sends past)).card
  slots : ∀ i < destinations.length, w.size (i + 1) = if Sends past i then 1 else 0

variable {calls : List Call} {call : Call} {h : Hall} {made i : Nat} {dialed : Endpoint}
  {destinations : List Endpoint} {past : List World.Happening}

/-- At rest a client is connected exactly if it was asked to send something. -/
theorem stage_of_quiet (hh : Holds calls w h made) (hr : Records destinations past calls)
    (hquiet : w.Quiet) (hi : calls[i]? = some call) :
    (call.stage = .unused ∧ ¬Sends past i) ∨
      ∃ number address up down, call.stage = .connected number address up down ∧ Sends past i := by
  have hoffered := hr.offered hi
  rcases hh.connected_of_quiet hquiet hi with hstage | ⟨number, address, up, down, hstage⟩
  · rw [hstage] at hoffered
    exact .inl ⟨hstage, not_not.2 (List.map_eq_nil_iff.1 hoffered.symm)⟩
  · have hsound := (hh.call hi).sound
    rw [hstage] at hoffered hsound
    refine .inr ⟨number, address, up, down, hstage, fun hsent => hsound.2.2 ?_⟩
    exact hoffered.trans (by rw [hsent, List.map_nil])

/-- The address from which a client is connected. -/
def addressOf (calls : List Call) (i : Nat) : Endpoint :=
  (((links calls)[i]?.join).map Prod.snd).getD .unbound

theorem addressOf_eq {number : Nat} {address : Endpoint}
    (hlink : (links calls)[i]? = some (some (number, address))) : addressOf calls i = address := by
  rw [addressOf, hlink]
  rfl

/-- At rest the server has taken in the connection of each client that sent something, and nothing is
under way on it. -/
theorem served_of_sends (hh : Holds calls w h made) (hr : Records destinations past calls)
    (hquiet : w.Quiet) (hi : i < destinations.length) (hsends : Sends past i) :
    ∃ dialed number up down handler,
      Served calls w h i dialed number (addressOf calls i) up down handler ∧
        destinations[i]? = some dialed ∧ up.AtRest ∧ down.AtRest := by
  rw [← hr.dialed, List.length_map] at hi
  have hcall := List.getElem?_eq_getElem hi
  rcases stage_of_quiet hh hr hquiet hcall with ⟨-, hnot⟩ | ⟨number, address, up, down, hstage, -⟩
  · exact absurd hsends hnot
  · generalize calls[i] = call at hcall hstage
    obtain ⟨dialed, stage⟩ := call
    obtain rfl : stage = _ := hstage
    have hlink := links_of_connected hcall rfl
    have hlt : number < h.registry.nextId := by
      rw [hh.nextId_of_quiet hquiet]
      exact hh.orderly.number_lt hlink
    obtain ⟨handler, hs⟩ := hh.served_of_lt hcall hlt
    refine ⟨dialed, number, up, down, handler, (addressOf_eq hlink).symm ▸ hs, ?_,
      hh.atRest hquiet hcall⟩
    rw [← hr.dialed, List.getElem?_map, hcall]
    rfl

/-- At rest the address of a connection is that of a client that sent something. -/
theorem sends_of_link (hh : Holds calls w h made) (hr : Records destinations past calls)
    (hquiet : w.Quiet) {number : Nat} {address : Endpoint}
    (hlink : (links calls)[i]? = some (some (number, address))) :
    i < destinations.length ∧ Sends past i ∧ address = addressOf calls i := by
  obtain ⟨call, up, down, hi, hstage⟩ := exists_connected hlink
  refine ⟨?_, ?_, (addressOf_eq hlink).symm⟩
  · rw [← hr.dialed, List.length_map]
    exact (List.getElem?_eq_some_iff.1 hi).1
  · rcases stage_of_quiet hh hr hquiet hi with ⟨hunused, -⟩ | ⟨_, _, _, _, -, hsends⟩
    · simp [hstage] at hunused
    · exact hsends

/-- At rest the client that sent nothing has no slot, and its sink has taken nothing; any other client
has one slot. -/
theorem slots_of_quiet (hh : Holds calls w h made) (hr : Records destinations past calls)
    (hquiet : w.Quiet) (hi : i < destinations.length) :
    (¬Sends past i → w.messages (i + 1) = []) ∧
      w.size (i + 1) = if Sends past i then 1 else 0 := by
  rw [← hr.dialed, List.length_map] at hi
  have hcall := List.getElem?_eq_getElem hi
  obtain ⟨config, r, received, hn, hdesk⟩ := (hh.call hcall).desk
  have hmessages : w.messages (i + 1) = received.reverse := by rw [World.messages, hn]; rfl
  have hsize : w.size (i + 1) = r.pool.size := by rw [World.size, hn]; rfl
  rw [hmessages, hsize, hdesk.received, hdesk.pool]
  rcases stage_of_quiet hh hr hquiet hcall with ⟨hstage, hnot⟩ | ⟨_, _, up, _, hstage, hsends⟩
  · rw [hstage, if_neg hnot]
    exact ⟨fun _ => rfl, rfl⟩
  · rw [hstage, if_pos hsends]
    exact ⟨fun hnot => absurd hsends hnot, rfl⟩

/-- At rest the server has one connection for each client that sent something. -/
theorem connections_of_quiet (hh : Holds calls w h made) (hr : Records destinations past calls)
    (hquiet : w.Quiet) :
    w.size 0 = ((Finset.range destinations.length).filter (Sends past)).card := by
  obtain ⟨config, own, hn⟩ := hh.hall
  have hsize : w.size 0 = h.registry.size := by rw [World.size, hn]; rfl
  rw [hsize, hh.orderly.size, hh.nextId_of_quiet hquiet, hh.orderly.made_eq, ← hr.dialed, links,
    List.length_map, List.length_map]
  congr 1
  refine Finset.filter_congr fun i hi => ?_
  have hcall := List.getElem?_eq_getElem (Finset.mem_range.1 hi)
  rw [List.getElem?_map, hcall, Option.map_some, Option.join_some]
  rcases stage_of_quiet hh hr hquiet hcall with ⟨hstage, hnot⟩ | ⟨_, _, _, _, hstage, hsends⟩
  · simp [hstage, Stage.link?, hnot]
  · simp [hstage, Stage.link?, hsends]

/-- **At rest everything has been delivered.** -/
theorem Tracks.delivered (ht : Tracks destinations past w) (hquiet : w.Quiet) :
    ∃ address, Delivered destinations past w address := by
  obtain ⟨calls, h, made, hh, hr⟩ := ht
  obtain ⟨config, own, hn⟩ := hh.hall
  have hmessages : w.messages 0 = h.received.reverse := by rw [World.messages, hn]; rfl
  refine ⟨addressOf calls, ?_, ?_, ?_, ?_, ?_, ?_, ?_, ?_, ?_⟩
  · intro i hi hsends
    obtain ⟨dialed, number, up, down, handler, hs, -⟩ := served_of_sends hh hr hquiet hi hsends
    rw [hn]
    exact (Directory.contains_iff h.registry.current _).2 ⟨number, hs.current⟩
  · intro i hi j hj hsends hsends' heq
    obtain ⟨dialed, number, up, down, handler, hs, -⟩ := served_of_sends hh hr hquiet hi hsends
    obtain ⟨dialed', number', up', down', handler', hs', -⟩ :=
      served_of_sends hh hr hquiet hj hsends'
    have hlink := links_of_connected hs.call rfl
    rw [heq] at hlink
    exact hh.orderly.address_inj hlink (links_of_connected hs'.call rfl)
  · intro i hi hsends
    obtain ⟨dialed, number, up, down, handler, hs, -, hrest, -⟩ :=
      served_of_sends hh hr hquiet hi hsends
    have htaken := ((hh.call hs.call).sound).1.taken_eq hrest
    have hoffered : up.offered = _ := hr.offered hs.call
    rw [hoffered, List.map_map] at htaken
    rw [hmessages]
    exact hs.fits.received.trans htaken
  · intro m hm
    rw [hmessages, List.mem_reverse] at hm
    obtain ⟨i, number, hlink⟩ := hh.orderly.messages m (List.mem_append_right _ hm)
    exact ⟨i, sends_of_link hh hr hquiet hlink⟩
  · intro i dialed hi hsends
    obtain ⟨dialed', number, up, down, handler, hs, hdialed, -, hrest⟩ :=
      served_of_sends hh hr hquiet (List.getElem?_eq_some_iff.1 hi).1 hsends
    obtain rfl := Option.some.inj (hi.symm.trans hdialed)
    obtain ⟨config', r, received, handler', hc⟩ := hh.called hs.call
    have htaken := ((hh.call hs.call).sound).2.1.taken_eq hrest
    have hanswered : down.offered = _ := hr.answered hs.call rfl
    rw [hanswered, List.map_map] at htaken
    rw [World.messages, hc.node]
    exact hc.desk.received.trans htaken
  · intro m hm
    obtain ⟨i, number, hlink⟩ := hr.served m hm
    exact ⟨i, sends_of_link hh hr hquiet hlink⟩
  · intro i hi
    exact (slots_of_quiet hh hr hquiet hi).1
  · exact connections_of_quiet hh hr hquiet
  · intro i hi
    exact (slots_of_quiet hh hr hquiet hi).2

/-! ### Main result -/

/-- **The exchange law.**  A server and any number of clients are started, and each client dials an
address at which it reaches the server.  Clients are asked to send frames, the server is asked to
send frames to addresses that it has connections to, time passes, and connectors do whatever is
possible, in any order and in pieces of any size, except that no connection is closed for being idle
and no dial given up; and no two connections are made from one address.  Then, when nothing can be
done, everything that was sent has been delivered to the sink that it was for, once, unchanged and in
order; and whatever is done from some time on comes to an end, and can be done until there is rest if
the host has ports for all clients, as one that counts on from a first port has for as many clients
as there are ports (`Host.spares_of_counting`). -/
theorem frames_reach_their_sinks {callers : List (ClientConfig × Endpoint)}
    (hopened : opened host config (callers.map Prod.fst) = .ok w) (hhost : host.obstacle = none)
    (hreach : ∀ caller ∈ callers, w.network.listenerAt? caller.2 = some 0)
    (happenings : List World.Happening)
    (hundisturbed : Undisturbed (callers.map Prod.snd) w happenings) :
    let destinations := callers.map Prod.snd
    let w' := w.after happenings
    (w'.Quiet → ∃ address, Delivered destinations happenings w' address) ∧
      (∃ bound, ∀ work t, (∀ action ∈ work, action.IsWork) → take? w' work = some t →
        Undisturbed destinations w' (work.map .act) → work.length ≤ bound) ∧
      (host.Spares callers.length → ∃ work : List World.Action,
        (∀ action ∈ work, action.IsWork) ∧ Undisturbed destinations w' (work.map .act) ∧
          (w'.after (work.map .act)).Quiet) := by
  intro destinations w'
  have htracks : Tracks destinations happenings w' :=
    (tracks_opened hopened hhost hreach).after hundisturbed
  refine ⟨htracks.delivered, ?_, fun hspares => ?_⟩
  · obtain ⟨calls, h, made, hh, -⟩ := htracks
    exact ⟨effort calls w', fun work t hwork htake hcalm => hh.length_le hwork htake hcalm⟩
  · obtain ⟨calls, h, made, hh, hr⟩ := htracks
    have hlength : calls.length = callers.length := by
      have hlength := congrArg List.length hr.dialed
      rwa [List.length_map, List.length_map] at hlength
    refine hh.exists_quiet ?_ destinations
    rwa [hundisturbed.host_eq, host_opened hopened, hlength]

/-- Three clients, of which the last one sends nothing.  The first one is connected after the second
one; its first frame arrives in two pieces, and the server answers it. -/
theorem frames_reach_their_sinks_interleaved :
    let server : Endpoint := .v4 .loopback 49152
    let first : Endpoint := .v4 .loopback 49154
    let callers : List (ClientConfig × Endpoint) := [({}, server), ({}, server), ({}, server)]
    let happenings : List World.Happening :=
      [.ask 1 (.send ⟨[0x20, 1, 0xAA, 0xBB], server⟩), .ask 2 (.send ⟨[0x00, 7], server⟩),
        .act (.dial 1 1), .act (.dial 2 1), .ask 1 (.send ⟨[0x00, 9], server⟩),
        .act (.settle 2 1), .act (.settle 1 1), .act (.accept 0), .act (.accept 0),
        .act (.read 0 1 3), .act (.write 1 1), .act (.read 0 0 8), .act (.dispatch 0 0),
        .act (.pass 10), .act (.read 0 1 8), .act (.dispatch 0 1), .act (.deliver 0),
        .act (.dispatch 0 1), .act (.deliver 0), .act (.deliver 0),
        .ask 0 (.send ⟨[0x10, 2, 0xCC], first⟩), .act (.write 0 1), .act (.read 1 1 8),
        .act (.dispatch 1 1), .act (.deliver 1)]
    ∃ w, opened .connected (.ephemeral 5) (callers.map Prod.fst) = .ok w ∧
      Undisturbed (callers.map Prod.snd) w happenings ∧ (w.after happenings).Quiet ∧
      (w.after happenings).messages 0 = [⟨[0x00, 7], .v4 .loopback 49153⟩,
        ⟨[0x20, 1, 0xAA, 0xBB], first⟩, ⟨[0x00, 9], first⟩] ∧
      (w.after happenings).messages 1 = [⟨[0x10, 2, 0xCC], server⟩] ∧
      ∃ address, Delivered (callers.map Prod.snd) happenings (w.after happenings) address := by
  intro server first callers happenings
  let w : World := match opened .connected (.ephemeral 5) (callers.map Prod.fst) with
    | .ok w => w
    | .error _ => World.new .connected
  have hopened : opened .connected (.ephemeral 5) (callers.map Prod.fst) = .ok w := rfl
  have hundisturbed : Undisturbed (callers.map Prod.snd) w happenings := by decide +kernel
  have hstill : (w.after happenings).Still := by decide +kernel
  refine ⟨w, hopened, hundisturbed, hstill.quiet, by decide +kernel, by decide +kernel, ?_⟩
  exact (frames_reach_their_sinks hopened rfl (by decide +kernel) happenings hundisturbed).1
    hstill.quiet

end Exchange

end Framewire
