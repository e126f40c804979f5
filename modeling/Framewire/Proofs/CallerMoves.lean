/-
**What clients do brings calls nearer to their ends.**

A client whose slot waits begins to dial, a dial connects it to the server, and then it reads, hands
over, delivers and writes as the server does at the other end.  After any of this a world that held
calls holds them again, and there is less to do for them.  Only a new connection needs something
from the network: an address that no other connection has.

Main definitions:

* `Network.Distinct` — no two connections were made from one address;
* `Exchange.Called` — what a client holds that is connected.

Main results:

* `Exchange.Called.act_read`, `Exchange.Called.act_write` — what reading and writing come to;
* `Exchange.Holds.act_client_dial`, `Exchange.Holds.act_client_settle`,
  `Exchange.Holds.act_client_read`, … — each action of a client keeps the calls of a world;
* `Exchange.Holds.act` — **every action keeps the calls of a world and takes effort off them**.
-/

import Framewire.Proofs.CallMoves
import Framewire.Proofs.Stillness

set_option autoImplicit false

namespace Framewire

open Framewire.Frame

/-- No two connections were made from one address.  The socket that dialed is the one whose twin has
the next number. -/
def Network.Distinct (n : Network) : Prop :=
  n.sockets.zipIdx.Pairwise fun x y => x.1.twin = x.2 + 1 → y.1.twin = y.2 + 1 →
    x.1.here ≠ y.1.here

instance (n : Network) : Decidable n.Distinct := inferInstanceAs (Decidable (List.Pairwise _ _))

theorem Network.Distinct.here_ne {n : Network} (h : n.Distinct) {i j : Nat} {s t : Socket}
    (hs : n.socket? i = some s) (ht : n.socket? j = some t) (hlt : i < j) (htwin : s.twin = i + 1)
    (htwin' : t.twin = j + 1) : s.here ≠ t.here := by
  obtain ⟨hi, rfl⟩ := List.getElem?_eq_some_iff.1 hs
  obtain ⟨hj, rfl⟩ := List.getElem?_eq_some_iff.1 ht
  have hpairwise := List.pairwise_iff_getElem.1 h i j (by simpa using hi) (by simpa using hj) hlt
  simp only [List.getElem_zipIdx, Nat.zero_add] at hpairwise
  exact hpairwise htwin htwin'

/-- A connector that is not there does nothing. -/
theorem World.act_of_node?_none {w : World} {action : World.Action} {node : Nat}
    (hnode : action.node? = some node) (hn : w.node? node = none) : w.act action = none := by
  cases action with
  | pass ms => simp [Action.node?] at hnode
  | _ =>
      obtain rfl := Option.some.inj hnode
      simp [act, deliver, selecting?, round?, hn]

namespace Exchange

variable {calls : List Call} {call : Call} {w w' : World} {h : Hall} {made i id most number : Nat}
  {address dialed : Endpoint} {up down : Flow} {config : ClientConfig} {r : Client.Round}
  {received : List Message} {handler : Handler}

/-! ### Connected clients -/

/-- What a client holds that is connected. -/
structure Called (calls : List Call) (w : World) (h : Hall) (i : Nat) (dialed : Endpoint)
    (number : Nat) (address : Endpoint) (up down : Flow) (config : ClientConfig) (r : Client.Round)
    (received : List Message) (handler : Handler) : Prop where
  call : calls[i]? = some ⟨dialed, .connected number address up down⟩
  node : w.node? (i + 1) = some ⟨.client (.plain config r), received⟩
  desk : Desk dialed (.connected number address up down) r received
  fits : Fits dialed number address up down (line w.network h number address)
  attached : ∀ id, r.hub.attached? id = if id = 1 then some ⟨1, 2 * number, handler⟩ else none
  handles : Handles down handler

/-- A client that is connected has one connection. -/
theorem Holds.called (hh : Holds calls w h made)
    (hi : calls[i]? = some ⟨dialed, .connected number address up down⟩) :
    ∃ config r received handler,
      Called calls w h i dialed number address up down config r received handler := by
  obtain ⟨config, r, received, hn, hdesk⟩ := (hh.call hi).desk
  obtain ⟨handler, hhandles, hattached⟩ := hdesk.attends
  exact ⟨config, r, received, handler, hi, hn, hdesk, (hh.call hi).fits rfl, hattached, hhandles⟩

/-- A client with a connection is connected to the server. -/
theorem Holds.called_of_attached (hh : Holds calls w h made) (hi : calls[i]? = some call)
    (hn : w.node? (i + 1) = some ⟨.client (.plain config r), received⟩) {a : Attached}
    (ha : r.hub.attached? id = some a) :
    ∃ dialed number address up down handler,
      Called calls w h i dialed number address up down config r received handler ∧ id = 1 ∧
      a = ⟨1, 2 * number, handler⟩ := by
  obtain ⟨config', r', received', hn', hdesk⟩ := (hh.call hi).desk
  obtain ⟨hmachine, rfl⟩ := Node.mk.inj (Option.some.inj (hn.symm.trans hn'))
  obtain ⟨rfl, rfl⟩ : config = config' ∧ r = r' := by
    have hclient := Machine.client.inj hmachine
    exact ⟨congrArg Client.config hclient,
      Option.some.inj (congrArg (fun c => c.life.running) hclient)⟩
  obtain ⟨dialed, stage⟩ := call
  have hattends := hdesk.attends
  cases stage with
  | connected number address up down =>
      obtain ⟨handler, hhandles, hattached⟩ := hattends
      rw [hattached] at ha
      split at ha
      · next hid =>
        exact ⟨dialed, number, address, up, down, handler,
          ⟨hi, hn, hdesk, (hh.call hi).fits rfl, hattached, hhandles⟩, hid,
          (Option.some.inj ha).symm⟩
      · simp at ha
  | unused => simp [show r.hub.attached? id = none from hattends id] at ha
  | waiting queue => simp [show r.hub.attached? id = none from hattends id] at ha
  | dialing first queue => simp [show r.hub.attached? id = none from hattends id] at ha

/-- The connection of a handler that waits for bytes or payloads is the one connection of its
client, and everything that its handler has read was handed over. -/
theorem Holds.called_of_selecting (hh : Holds calls w h made) (hi : calls[i]? = some call)
    (hn : w.node? (i + 1) = some ⟨.client (.plain config r), received⟩)
    {selected : Machine × Attached} (hselecting : w.selecting? (i + 1) id = some selected) :
    ∃ dialed number address up down handler,
      Called calls w h i dialed number address up down config r received handler ∧ id = 1 ∧
      down.undelivered = [] := by
  rw [World.selecting?_eq hn (show _ = some r.hub from rfl)] at hselecting
  obtain ⟨a, ha, -⟩ := Option.map_eq_some_iff.1 hselecting
  obtain ⟨hattached, hundelivered⟩ := Hub.selecting?_eq_some_iff.1 ha
  obtain ⟨dialed, number, address, up, down, handler, hc, hid, rfl⟩ :=
    hh.called_of_attached hi hn hattached
  exact ⟨dialed, number, address, up, down, handler, hc, hid,
    hc.handles.undelivered.symm.trans hundelivered⟩

namespace Called

theorem selecting?_eq
    (hc : Called calls w h i dialed number address up down config r received handler)
    (hundelivered : down.undelivered = []) :
    w.selecting? (i + 1) 1 = some (.client (.plain config r), ⟨1, 2 * number, handler⟩) := by
  rw [World.selecting?_eq hc.node (show _ = some r.hub from rfl), Hub.selecting?_eq_some_iff.2
    ⟨hc.attached 1, hc.handles.undelivered.trans hundelivered⟩]
  rfl

/-- A client reads what has arrived from the server. -/
theorem act_read (hc : Called calls w h i dialed number address up down config r received handler)
    (hundelivered : down.undelivered = []) (most : Nat) :
    w.act (.read (i + 1) 1 most) = if down.arrived.take most = [] then none else
      some (w.set (i + 1) ⟨.client (.plain config { r with
          hub := r.hub.setHandler 1 (handler.receive w.now (down.arrived.take most)) }), received⟩
        (w.network.modifySocket (2 * number) fun s => { s with arrived := s.arrived.drop most })
        w.notices) := by
  rw [World.act_read_of_selecting (hc.selecting?_eq hundelivered) hc.fits.near rfl]
  dsimp only
  split
  · rfl
  · next hbytes =>
    rw [World.react_of_going hc.node (Client.react_plain (hc.attached 1) hbytes) rfl]
    rfl

/-- A client writes to the server. -/
theorem act_write (hc : Called calls w h i dialed number address up down config r received handler)
    (hundelivered : down.undelivered = []) :
    w.act (.write (i + 1) 1) = match up.waiting with
      | [] => none
      | payload :: rest => some (w.set (i + 1) ⟨.client (.plain config { r with
          pool := .solo dialed rest .connected
          hub := r.hub.setHandler 1 { handler with timer := handler.timer.touch w.now } }), received⟩
        (w.network.modifySocket (2 * number + 1) fun s =>
          { s with arrived := s.arrived ++ payload })
        w.notices) := by
  have hpool : r.pool = .solo dialed up.waiting .connected := hc.desk.pool
  have hselecting := hc.selecting?_eq hundelivered
  cases hwaiting : up.waiting with
  | nil =>
      rw [hwaiting] at hpool
      exact World.act_write_of_empty hselecting (Client.nextPayload_plain_of_nil hpool)
  | cons payload rest =>
      rw [hwaiting] at hpool
      have hwrite := Network.write_of_open hc.fits.near rfl rfl hc.fits.far rfl payload
      rw [World.act_write_of_selecting hselecting (Client.nextPayload_plain hpool) hwrite]
      exact World.react_of_going hc.node (Client.react_plain_payload (hc.attached 1) hpool) rfl

/-- The one connection goes on with another handler. -/
theorem attached_setHandler
    (hc : Called calls w h i dialed number address up down config r received handler)
    (handler' : Handler) (id : Nat) :
    (r.hub.setHandler 1 handler').attached? id =
      if id = 1 then some ⟨1, 2 * number, handler'⟩ else none := by
  rw [Hub.attached?_setHandler, hc.attached]
  by_cases hid : id = 1
  · subst hid
    rfl
  · rw [if_neg (Ne.symm hid), if_neg hid, if_neg hid]

end Called

/-- **A client reads.** -/
theorem Holds.act_client_read (hh : Holds calls w h made) (hi : calls[i]? = some call)
    (hact : w.act (.read (i + 1) id most) = some w') : Proceeds calls w w' := by
  obtain ⟨config, r, received, hn, -⟩ := (hh.call hi).desk
  obtain ⟨selected, hselecting, -⟩ := Option.bind_eq_some_iff.1 hact
  obtain ⟨dialed, number, address, up, down, handler, hc, rfl, hundelivered⟩ :=
    hh.called_of_selecting hi hn hselecting
  rw [hc.act_read hundelivered] at hact
  split at hact
  · simp at hact
  · next hbytes =>
    obtain rfl := Option.some.inj hact
    have hsound := (hh.call hc.call).sound
    have hd := hc.desk
    have hh' := hh.change_client
      (w.network.modifySocket (2 * number) fun s => { s with arrived := s.arrived.drop most })
      { r with hub := r.hub.setHandler 1 (handler.receive w.now (down.arrived.take most)) }
      received up (down.read most) hc.call hn (fun _ => rfl) (hh.orderly.modifySocket _ _) ?_
      ⟨hsound.1, hsound.2.1.read hundelivered most, hsound.2.2⟩
      ⟨hd.pool, ⟨_, hc.handles.receive _ _, hc.attached_setHandler _⟩, hd.queued, hd.received,
        hd.delivering, hd.room⟩ ?_ w.notices
    · exact hh'.proceeds_flows hc.call rfl rfl rfl
        (Nat.add_lt_add_left (Flow.effort_read_lt hundelivered hbytes) _)
    · intro other remote hne _
      exact line_modifySocket_of_ne (.inl rfl) hne _
    · rw [line_modifySocket_near]
      refine ⟨?_, hc.fits.far, ?_, hc.fits.queued, hc.fits.received⟩
      · rw [hc.fits.near]
        rfl
      · exact hc.fits.seated.congr rfl rfl rfl rfl rfl rfl

/-- **A client writes.** -/
theorem Holds.act_client_write (hh : Holds calls w h made) (hi : calls[i]? = some call)
    (hact : w.act (.write (i + 1) id) = some w') : Proceeds calls w w' := by
  obtain ⟨config, r, received, hn, -⟩ := (hh.call hi).desk
  obtain ⟨selected, hselecting, -⟩ := Option.bind_eq_some_iff.1 hact
  obtain ⟨dialed, number, address, up, down, handler, hc, rfl, hundelivered⟩ :=
    hh.called_of_selecting hi hn hselecting
  rw [hc.act_write hundelivered] at hact
  split at hact
  · simp at hact
  · next payload rest hwaiting =>
    obtain rfl := Option.some.inj hact
    have hsound := (hh.call hc.call).sound
    have hd := hc.desk
    have hh' := hh.change_client
      (w.network.modifySocket (2 * number + 1) fun s =>
        { s with arrived := s.arrived ++ payload })
      { r with
        pool := .solo dialed rest .connected
        hub := r.hub.setHandler 1 { handler with timer := handler.timer.touch w.now } }
      received (up.write payload rest) down hc.call hn (fun _ => rfl)
      (hh.orderly.modifySocket _ _) ?_ ⟨hsound.1.write hwaiting, hsound.2⟩
      ⟨rfl, ⟨{ handler with timer := handler.timer.touch w.now },
        ⟨hc.handles.framer, hc.handles.undelivered⟩, hc.attached_setHandler _⟩,
        hd.queued, hd.received, hd.delivering, hd.room⟩ ?_ w.notices
    · exact hh'.proceeds_flows hc.call rfl rfl rfl
        (Nat.add_lt_add_right (Flow.effort_write_lt hwaiting) _)
    · intro other remote hne _
      exact line_modifySocket_of_ne (.inr rfl) hne _
    · rw [line_modifySocket_far]
      refine ⟨hc.fits.near, ?_, ?_, hc.fits.queued, hc.fits.received⟩
      · rw [hc.fits.far]
        rfl
      · exact hc.fits.seated.congr rfl rfl rfl rfl rfl rfl

/-- **A client hands a message over.** -/
theorem Holds.act_client_dispatch (hh : Holds calls w h made) (hi : calls[i]? = some call)
    (hact : w.act (.dispatch (i + 1) id) = some w') : Proceeds calls w w' := by
  obtain ⟨config, r, received, hn, -⟩ := (hh.call hi).desk
  rw [World.act_dispatch_eq hn, Client.dispatch_plain, Option.map_map] at hact
  obtain ⟨_, hdispatch, rfl⟩ := Option.map_eq_some_iff.1 hact
  obtain ⟨a, message, rest, ha, hundelivered, -, -, rfl⟩ := Hub.dispatch_eq_some_iff.1 hdispatch
  obtain ⟨dialed, number, address, up, down, handler, hc, rfl, rfl⟩ :=
    hh.called_of_attached hi hn ha
  have hundelivered : down.undelivered = message :: rest :=
    hc.handles.undelivered.symm.trans hundelivered
  have hsound := (hh.call hc.call).sound
  have hd := hc.desk
  have hh' := hh.change_client w.network
    { r with hub := { r.hub.setHandler 1 { handler with undelivered := rest } with
      queue := { r.hub.queue with queue := r.hub.queue.queue ++ [message] } } }
    received up (down.dispatch message rest) hc.call hn (fun _ => rfl) hh.orderly
    (fun _ _ _ _ => rfl) ⟨hsound.1, hsound.2.1.dispatch hundelivered, hsound.2.2⟩
    ⟨hd.pool, ⟨{ handler with undelivered := rest }, ⟨hc.handles.framer, rfl⟩,
      hc.attached_setHandler _⟩, congrArg (· ++ [message]) hd.queued, hd.received, hd.delivering,
      hd.room⟩ ?_ w.notices
  · exact hh'.proceeds_flows hc.call rfl rfl rfl
      (Nat.add_lt_add_left (Flow.effort_dispatch_lt hundelivered) _)
  · exact ⟨hc.fits.near, hc.fits.far, hc.fits.seated.congr rfl rfl rfl rfl rfl rfl,
      hc.fits.queued, hc.fits.received⟩

/-- **A client's sink takes a message.** -/
theorem Holds.act_client_deliver (hh : Holds calls w h made) (hi : calls[i]? = some call)
    (hact : w.act (.deliver (i + 1)) = some w') : Proceeds calls w w' := by
  obtain ⟨config, r, received, hn, hd⟩ := (hh.call hi).desk
  cases hqueue : r.hub.queue.queue with
  | nil =>
      simp [World.act_deliver_of_none hn (Client.deliver_plain_of_nil hqueue)] at hact
  | cons message rest =>
      -- only a client that is connected has messages
      obtain ⟨dialed, stage⟩ := call
      have hqueued := hd.queued
      rw [hqueue] at hqueued
      cases stage with
      | unused => simp [Stage.queued] at hqueued
      | waiting queue => simp [Stage.queued] at hqueued
      | dialing first queue => simp [Stage.queued] at hqueued
      | connected number address up down =>
          rw [World.act_deliver_of_taken hn (Client.deliver_plain hqueue),
            SinkQueue.deliver_of_taken hqueue rfl] at hact
          obtain rfl := Option.some.inj hact
          have hsound := (hh.call hi).sound
          have hfits := (hh.call hi).fits rfl
          have hqueued : down.queued = message :: rest := hqueued.symm
          obtain ⟨handler, hhandles, hattached⟩ := hd.attends
          have hreceived : (message :: received).reverse = down.taken ++ [message] := by
            rw [List.reverse_cons, hd.received]
            rfl
          have hh' := hh.change_client w.network
            { r with hub := { r.hub with queue := { r.hub.queue with
              queue := rest, given := message :: r.hub.queue.given,
              taken := message :: r.hub.queue.taken } } }
            (message :: received) up (down.deliver message rest) hi hn (fun _ => rfl) hh.orderly
            (fun _ _ _ _ => rfl) ⟨hsound.1, hsound.2.1.deliver hqueued, hsound.2.2⟩
            ⟨hd.pool, ⟨handler, ⟨hhandles.framer, hhandles.undelivered⟩, hattached⟩, rfl,
              hreceived, hd.delivering, hd.room⟩ ?_ w.notices
          · exact hh'.proceeds_flows hi rfl rfl rfl
              (Nat.add_lt_add_left (Flow.effort_deliver_lt hqueued) _)
          · exact ⟨hfits.near, hfits.far, hfits.seated.congr rfl rfl rfl rfl rfl rfl, hfits.queued,
              hfits.received⟩

/-! ### Clients that are not connected -/

/-- A client that has a slot has one, in the phase of its stage. -/
theorem Desk.of_task? {stage : Stage} (hd : Desk dialed stage r received) {slot : Nat}
    {t : Pool.Task Bytes} (ht : r.pool.task? slot = some t) :
    slot = 1 ∧ ((∃ queue, stage = .waiting queue ∧
        t = { id := 1, destination := dialed, queue, phase := .waiting }) ∨
      (∃ first queue, stage = .dialing first queue ∧
        t = { id := 1, destination := dialed, queue, phase := .dialing first }) ∨
      t.phase = .connected) := by
  have hpool := hd.pool
  cases stage with
  | unused =>
      rw [hpool] at ht
      simp [Stage.pool, Pool.task?] at ht
  | waiting queue =>
      obtain ⟨hslot, rfl⟩ := Client.Round.eq_one_of_task? hpool ht
      exact ⟨hslot, .inl ⟨queue, rfl, rfl⟩⟩
  | dialing first queue =>
      obtain ⟨hslot, rfl⟩ := Client.Round.eq_one_of_task? hpool ht
      exact ⟨hslot, .inr (.inl ⟨first, queue, rfl, rfl⟩)⟩
  | connected number address up down =>
      obtain ⟨hslot, rfl⟩ := Client.Round.eq_one_of_task? hpool ht
      exact ⟨hslot, .inr (.inr rfl)⟩

/-- **A client begins to dial.** -/
theorem Holds.act_client_dial (hh : Holds calls w h made) (hi : calls[i]? = some call) {slot : Nat}
    (hact : w.act (.dial (i + 1) slot) = some w') : Proceeds calls w w' := by
  obtain ⟨config, r, received, hn, hd⟩ := (hh.call hi).desk
  rw [World.act_dial_eq hn (show _ = some r from rfl)] at hact
  obtain ⟨r', hdial, rfl⟩ := Option.map_eq_some_iff.1 hact
  have hdial' := hdial
  obtain ⟨t, ht, hdial⟩ := Option.bind_eq_some_iff.1 hdial
  obtain ⟨dialed, stage⟩ := call
  obtain ⟨rfl, ⟨queue, rfl, rfl⟩ | ⟨first, queue, rfl, rfl⟩ | hphase⟩ := hd.of_task? ht
  · have hsound := (hh.call hi).sound
    cases queue with
    | nil => exact absurd rfl hsound.1
    | cons first queue =>
        rw [Client.Round.dial_of_solo hd.pool] at hdial'
        obtain rfl := Option.some.inj hdial'
        have hh' := hh.change_caller (.dialing first queue) { r with
            pool := .solo dialed queue (.dialing first)
            dials := (1, w.now + r.connectTimeout) :: r.dials } hi rfl rfl hn hsound.2
          ⟨rfl, hd.attends, hd.queued, hd.received, hd.delivering, hd.room⟩ w.notices
        refine hh'.proceeds hi rfl rfl rfl (fun _ hlink => hlink) ?_
        change 3 + _ + (w.network.backlog 0).length < 4 + _ + _
        exact Nat.add_lt_add_right (Nat.add_lt_add_right (Nat.lt_succ_self 3) _) _
  · simp at hdial
  · simp [hphase] at hdial

/-- No slot of a client has come to its end. -/
theorem Holds.act_client_evict (hh : Holds calls w h made) (hi : calls[i]? = some call)
    (slot : Nat) : w.act (.evict (i + 1) slot) = none := by
  obtain ⟨config, r, received, hn, hd⟩ := (hh.call hi).desk
  refine World.act_evict_of_none hn (show _ = some r from rfl) ?_
  cases hevict : r.evict slot with
  | none => rfl
  | some result =>
      obtain ⟨t, ht, hevict⟩ := Option.bind_eq_some_iff.1 hevict
      obtain ⟨-, ⟨queue, -, rfl⟩ | ⟨first, queue, -, rfl⟩ | hphase⟩ := hd.of_task? ht
      · simp at hevict
      · simp at hevict
      · simp [hphase] at hevict

/-! ### Dials -/

/-- The network after a client was connected and has written its first payload. -/
def connected (n : Network) (made : Nat) (dialed : Endpoint) (first : Bytes) : Network :=
  n.connected (2 * made) 0 dialed first

/-- The sockets of a new connection; the others are as they were. -/
theorem Orderly.socket?_connected {links : List (Option (Nat × Endpoint))} {n : Network}
    (ho : Orderly links n h made) (dialed : Endpoint) (first : Bytes) (i : Nat) :
    (connected n made dialed first).socket? i =
      if i = 2 * made then
        some { here := n.nextAddress dialed, there := dialed, twin := 2 * made + 1 }
      else if i = 2 * made + 1 then
        some { here := dialed, there := n.nextAddress dialed, twin := 2 * made, arrived := first }
      else n.socket? i :=
  Network.socket?_connected ho.sockets 0 dialed first i

theorem Orderly.backlog_connected {links : List (Option (Nat × Endpoint))} {n : Network}
    (ho : Orderly links n h made) (dialed : Endpoint) (first : Bytes) :
    (connected n made dialed first).backlog 0 = n.backlog 0 ++ [2 * made + 1] :=
  Network.backlog_connected ho.sockets ho.listener dialed first

/-- The line of a new connection: nothing is known of it to the server. -/
theorem Orderly.line_connected {links : List (Option (Nat × Endpoint))} {n : Network}
    (ho : Orderly links n h made) (dialed : Endpoint) (first : Bytes)
    (hfresh : ∀ j number : Nat, links[j]? ≠ some (some (number, n.nextAddress dialed))) :
    ∃ current, line (connected n made dialed first) h made (n.nextAddress dialed) =
      ⟨some { here := n.nextAddress dialed, there := dialed, twin := 2 * made + 1 },
        some { here := dialed, there := n.nextAddress dialed, twin := 2 * made, arrived := first },
        none, current, none, [], []⟩ := by
  have hnone : ∀ messages : List Message,
      (∀ m ∈ messages, m ∈ h.hub.queue.queue ++ h.received) →
      messages.filter (·.remote = n.nextAddress dialed) = [] := by
    intro messages hmem
    refine List.filter_eq_nil_iff.2 fun m hm heq => ?_
    obtain ⟨j, number, hlink⟩ := ho.messages m (hmem m hm)
    rw [of_decide_eq_true heq] at hlink
    exact hfresh j number hlink
  refine ⟨h.registry.current.get? (n.nextAddress dialed), ?_⟩
  have henrolment : h.registry.enrolment? made = none := List.getElem?_eq_none ho.taken
  rw [line, ho.socket?_connected, ho.socket?_connected, if_pos rfl, if_neg (by omega), if_pos rfl,
    henrolment, ho.attached made ho.taken, hnone _ fun m hm => List.mem_append_left _ hm,
    hnone _ fun m hm => List.mem_append_right _ (List.mem_reverse.1 hm)]

/-- The flow of the payloads of a client that dials, of which the first one is written at once. -/
def firstUp (address : Endpoint) (first : Bytes) (queue : List Bytes) : Flow :=
  (Flow.opened address (first :: queue)).write first queue

/-- What the dial of a client comes to. -/
theorem Holds.settle_eq (hh : Holds calls w h made) {first : Bytes} {queue : List Bytes}
    (hi : calls[i]? = some ⟨dialed, .dialing first queue⟩) :
    ∃ config r r' received,
      w.node? (i + 1) = some ⟨.client (.plain config r), received⟩ ∧
      Desk dialed (.connected made (w.network.nextAddress dialed)
        (firstUp (w.network.nextAddress dialed) first queue) (.opened dialed [])) r' received ∧
      w.act (.settle (i + 1) 1) = some (w.set (i + 1) ⟨.client (.plain config r'), received⟩
        (connected w.network made dialed first) w.notices) := by
  obtain ⟨config, r, received, hn, hd⟩ := (hh.call hi).desk
  have hsettle := Client.Round.settle_connected hd.pool hh.orderly.sockets hh.orderly.obstacle
    (by simp [hh.orderly.silent]) (hh.reach _ (List.mem_of_getElem? hi)) w.now
  refine ⟨config, r, { r with
    pool := .solo dialed queue .connected
    hub := r.hub.attach 1 (2 * made) (.new dialed r.idleTimeout w.now)
    dials := (r.undial 1).dials }, received, hn, ?_, ?_⟩
  · refine ⟨rfl, ⟨.new dialed r.idleTimeout w.now, ⟨rfl, rfl⟩, fun id => ?_⟩, hd.queued,
      hd.received, hd.delivering, hd.room⟩
    rw [Hub.attached?_attach, show r.hub.attached? id = none from hd.attends id, Option.none_or]
    by_cases hid : id = 1
    · rw [if_pos hid.symm, if_pos hid]
    · rw [if_neg (Ne.symm hid), if_neg hid]
  · rw [World.act_settle_eq hn (show _ = some r from rfl), hsettle]
    rfl

/-- The lines of connections do not change when another one is made. -/
theorem Orderly.line_connected_of_lt {links : List (Option (Nat × Endpoint))} {n : Network}
    (ho : Orderly links n h made) (hlt : number < made) (dialed : Endpoint) (first : Bytes)
    (remote : Endpoint) :
    line (connected n made dialed first) h number remote = line n h number remote := by
  have hnear : ¬2 * number = 2 * made ∧ ¬2 * number = 2 * made + 1 := by omega
  have hfar : ¬2 * number + 1 = 2 * made ∧ ¬2 * number + 1 = 2 * made + 1 := by omega
  simp only [line, ho.socket?_connected, hnear, hfar, if_false]

/-- The address of a connection is its own if no two connections were made from one address. -/
theorem Holds.fresh_of_distinct (hh : Holds calls w h made) {first : Bytes}
    (hdistinct : (connected w.network made dialed first).Distinct) (j number : Nat) :
    (links calls)[j]? ≠ some (some (number, w.network.nextAddress dialed)) := by
  intro hlink
  have hlt := hh.orderly.number_lt hlink
  obtain ⟨other, up, down, hj, hstage⟩ := exists_connected hlink
  have hnear := ((hh.call hj).fits hstage).near
  rw [← hh.orderly.line_connected_of_lt hlt dialed first] at hnear
  have hnew := (hh.orderly.socket?_connected dialed first (2 * made)).trans (if_pos rfl)
  exact hdistinct.here_ne hnear hnew (by omega) rfl rfl rfl

/-- The address of a connection is its own as long as no port was given out again. -/
theorem Orderly.fresh_of_spares {links : List (Option (Nat × Endpoint))} {n : Network}
    (ho : Orderly links n h made) {count : Nat} (hspares : n.host.Spares count) (hlt : made < count)
    (dialed : Endpoint) (j number : Nat) : links[j]? ≠ some (some (number, n.nextAddress dialed)) := by
  intro hlink
  have hnumber := ho.number_lt hlink
  have hports := ho.ports
  have hport := ho.port hlink
  rw [Network.nextAddress, Endpoint.port_ofIp] at hport
  exact hspares (n.given - made + number) n.given (by omega) (by omega) hport.symm

/-- **The dial of a client connects it**, if its connection gets an address of its own. -/
theorem Holds.connects (hh : Holds calls w h made) {first : Bytes} {queue : List Bytes}
    (hi : calls[i]? = some ⟨dialed, .dialing first queue⟩)
    (hfresh : ∀ j number : Nat,
      (links calls)[j]? ≠ some (some (number, w.network.nextAddress dialed)))
    (hn : w.node? (i + 1) = some ⟨.client (.plain config r), received⟩) {r' : Client.Round}
    (hd : Desk dialed (.connected made (w.network.nextAddress dialed)
      (firstUp (w.network.nextAddress dialed) first queue) (.opened dialed [])) r' received) :
    Proceeds calls w (w.set (i + 1) ⟨.client (.plain config r'), received⟩
      (connected w.network made dialed first) w.notices) := by
  have ho := hh.orderly
  have hsound := (hh.call hi).sound
  have hlink : (links calls)[i]? = some none := by
    rw [links, List.getElem?_map, hi]
    rfl
  have hlinks : links (calls.set i ⟨dialed, .connected made (w.network.nextAddress dialed)
      (firstUp (w.network.nextAddress dialed) first queue) (.opened dialed [])⟩) =
      (links calls).set i (some (made, w.network.nextAddress dialed)) := List.map_set ..
  have horderly := ho.connect hlink hfresh (Endpoint.port_ofIp ..) dialed fun s =>
    { s with arrived := s.arrived ++ first }
  have hh' := hh.change (w.set (i + 1) ⟨.client (.plain config r'), received⟩
      (connected w.network made dialed first) w.notices) h (made + 1)
    ⟨dialed, .connected made (w.network.nextAddress dialed)
      (firstUp (w.network.nextAddress dialed) first queue) (.opened dialed [])⟩ hi rfl ?_
    List.length_set ?_ (hlinks ▸ horderly) ?_ ?_ ?_
  · refine hh'.proceeds hi rfl rfl rfl (fun _ hlink => by simp [Stage.link?] at hlink) ?_
    change (firstUp _ first queue).effort + (Flow.opened dialed []).effort +
      ((connected w.network made dialed first).backlog 0).length <
        3 + ((first :: queue).length + 4 * (first :: queue).flatten.length) + _
    -- the first payload went out with the connection
    have hup : (firstUp (w.network.nextAddress dialed) first queue).effort <
        (Flow.opened (w.network.nextAddress dialed) (first :: queue)).effort :=
      Flow.effort_write_lt rfl
    rw [Flow.effort_opened] at hup
    rw [Flow.effort_opened, ho.backlog_connected, List.length_append, List.length_singleton,
      List.length_nil, List.flatten_nil, List.length_nil]
    omega
  · obtain ⟨config', own, hserver⟩ := hh.hall
    exact ⟨config', own, by rw [World.node?_set hn, if_neg (Nat.succ_ne_zero i).symm, hserver]⟩
  · exact Network.listenerAt?_connected _ _ _ _ _
  · intro j hj
    rw [World.node?_set hn, if_neg (by omega)]
  · -- the new number is none of those that the others have
    intro j number address _ hlink
    exact ho.line_connected_of_lt (ho.number_lt hlink) dialed first address
  · refine ⟨⟨(Flow.sound_opened hsound).write rfl, Flow.sound_opened (by simp),
      List.cons_ne_nil first queue⟩,
      ⟨config, r', received, ?_, hd⟩, ?_⟩
    · rw [World.node?_set hn, if_pos rfl]
    · intro _ _ _ _ hstage
      obtain ⟨rfl, rfl, rfl, rfl⟩ := Stage.connected.inj hstage
      obtain ⟨current, hline⟩ := ho.line_connected dialed first hfresh
      change Fits _ _ _ _ _ (line (connected w.network made dialed first) h made _)
      rw [hline]
      exact ⟨rfl, rfl, .pending rfl rfl rfl rfl rfl, rfl, rfl⟩

/-- **The dial of a client connects it**, and no two connections were made from one address before
or after, or the host has ports for all. -/
theorem Holds.act_client_settle (hh : Holds calls w h made) (hi : calls[i]? = some call) {slot : Nat}
    (hact : w.act (.settle (i + 1) slot) = some w')
    (hown : w'.network.Distinct ∨ w.network.host.Spares calls.length) : Proceeds calls w w' := by
  obtain ⟨dialed, first, queue, rfl, rfl⟩ : ∃ dialed first queue, slot = 1 ∧
      call = ⟨dialed, .dialing first queue⟩ := by
    obtain ⟨config, r, received, hn, hd⟩ := (hh.call hi).desk
    rw [World.act_settle_eq hn (show _ = some r from rfl)] at hact
    obtain ⟨result, hsettle, -⟩ := Option.map_eq_some_iff.1 hact
    obtain ⟨t, ht, hsettle⟩ := Option.bind_eq_some_iff.1 hsettle
    obtain ⟨dialed, stage⟩ := call
    obtain ⟨hslot, ⟨queue, rfl, rfl⟩ | ⟨first, queue, rfl, rfl⟩ | hphase⟩ := hd.of_task? ht
    · simp at hsettle
    · exact ⟨dialed, first, queue, hslot, rfl⟩
    · simp [hphase] at hsettle
  obtain ⟨config, r, r', received, hn, hd, heq⟩ := hh.settle_eq hi
  obtain rfl := Option.some.inj (heq.symm.trans hact)
  refine hh.connects hi ?_ hn hd
  rcases hown with hdistinct | hspares
  · exact hh.fresh_of_distinct hdistinct
  · have hlink : (links calls)[i]? = some none := by
      rw [links, List.getElem?_map, hi]
      rfl
    have hlt := hh.orderly.made_lt hlink
    rw [links, List.length_map] at hlt
    exact hh.orderly.fresh_of_spares hspares hlt dialed

/-! ### Every action -/

/-- The server has no slots. -/
theorem Holds.round?_zero (hh : Holds calls w h made) : w.round? 0 = none := by
  obtain ⟨config, own, hn⟩ := hh.hall
  rw [World.round?, hn]
  rfl

/-- The server has no earlier rounds. -/
theorem Holds.act_server_drain (hh : Holds calls w h made) (earlier : Nat) :
    w.act (.drain 0 earlier) = none := by
  obtain ⟨config, own, hn⟩ := hh.hall
  exact World.act_drain_of_none hn (Server.deliver_plain_earlier earlier)

/-- A client has no earlier rounds. -/
theorem Holds.act_client_drain (hh : Holds calls w h made) (hi : calls[i]? = some call)
    (earlier : Nat) : w.act (.drain (i + 1) earlier) = none := by
  obtain ⟨config, r, received, hn, -⟩ := (hh.call hi).desk
  exact World.act_drain_of_none hn (Client.deliver_plain_earlier earlier)

/-- A client takes no connections in. -/
theorem Holds.act_client_accept (hh : Holds calls w h made) (hi : calls[i]? = some call) :
    w.act (.accept (i + 1)) = none := by
  obtain ⟨config, r, received, hn, -⟩ := (hh.call hi).desk
  simp only [World.act, hn, Option.bind_eq_bind, Option.bind_some]

theorem Holds.node?_none (hh : Holds calls w h made) (hi : calls[i]? = none) :
    w.node? (i + 1) = none := by
  refine List.getElem?_eq_none ?_
  have := List.getElem?_eq_none_iff.1 hi
  rw [hh.length]
  omega

/-- **Every action keeps the calls of a world and takes effort off them**, if new connections get
addresses of their own, or the host has ports for all clients. -/
theorem Holds.act (hh : Holds calls w h made) {action : World.Action} (hwork : action.IsWork)
    (hact : w.act action = some w')
    (hown : w'.network.Distinct ∨ w.network.host.Spares calls.length) : Proceeds calls w w' := by
  obtain ⟨node, hnode⟩ : ∃ node, action.node? = some node := by
    cases action with
    | pass ms => exact hwork.elim
    | _ => exact ⟨_, rfl⟩
  cases node with
  | zero =>
      have hround := hh.round?_zero
      cases action with
      | pass ms => exact hwork.elim
      | expire node id => exact hwork.elim
      | giveUp node slot => exact hwork.elim
      | accept node => obtain rfl := Option.some.inj hnode; exact hh.act_server_accept hact
      | read node id most => obtain rfl := Option.some.inj hnode; exact hh.act_server_read hact
      | dispatch node id => obtain rfl := Option.some.inj hnode; exact hh.act_server_dispatch hact
      | write node id => obtain rfl := Option.some.inj hnode; exact hh.act_server_write hact
      | deliver node => obtain rfl := Option.some.inj hnode; exact hh.act_server_deliver hact
      | drain node earlier =>
          obtain rfl := Option.some.inj hnode
          simp [hh.act_server_drain earlier] at hact
      | dial node slot => obtain rfl := Option.some.inj hnode; simp [World.act, hround] at hact
      | settle node slot => obtain rfl := Option.some.inj hnode; simp [World.act, hround] at hact
      | evict node slot => obtain rfl := Option.some.inj hnode; simp [World.act, hround] at hact
  | succ i =>
      cases hi : calls[i]? with
      | none => simp [World.act_of_node?_none hnode (hh.node?_none hi)] at hact
      | some call =>
          cases action with
          | pass ms => exact hwork.elim
          | expire node id => exact hwork.elim
          | giveUp node slot => exact hwork.elim
          | accept node =>
              obtain rfl := Option.some.inj hnode
              simp [hh.act_client_accept hi] at hact
          | read node id most =>
              obtain rfl := Option.some.inj hnode
              exact hh.act_client_read hi hact
          | dispatch node id =>
              obtain rfl := Option.some.inj hnode
              exact hh.act_client_dispatch hi hact
          | write node id =>
              obtain rfl := Option.some.inj hnode
              exact hh.act_client_write hi hact
          | deliver node =>
              obtain rfl := Option.some.inj hnode
              exact hh.act_client_deliver hi hact
          | drain node earlier =>
              obtain rfl := Option.some.inj hnode
              simp [hh.act_client_drain hi earlier] at hact
          | dial node slot =>
              obtain rfl := Option.some.inj hnode
              exact hh.act_client_dial hi hact
          | settle node slot =>
              obtain rfl := Option.some.inj hnode
              exact hh.act_client_settle hi hact hown
          | evict node slot =>
              obtain rfl := Option.some.inj hnode
              simp [hh.act_client_evict hi] at hact

end Exchange

end Framewire
