/-
**What clients send reaches the server, and what the server sends reaches the client.**

A run is undisturbed if frames are sent only to where somebody is, no connection is closed for being
idle, no dial is given up, and every connection is made from an address of its own.  In such a run a
world goes on to hold calls, and the calls are about what was sent in it.  In a quiet world nothing is
under way any more; and work comes to an end.

Main definitions:

* `Exchange.sent` — the messages that a connector was asked to send;
* `Exchange.Records` — calls are about what was sent;
* `Exchange.Calm`, `Exchange.Undisturbed` — what happens is as the exchange law asks for;
* `Exchange.Tracks` — a world holds calls that are about what was sent.

Main results:

* `Exchange.Holds.atRest` — in a quiet world nothing is under way;
* `Exchange.Tracks.happen`, `Exchange.Tracks.after` — **whatever happens undisturbed, a world goes on
  to hold calls that are about what was sent**;
* `Exchange.Holds.length_le`, `Exchange.Holds.exists_quiet` — work comes to an end, and can be done
  until there is rest.
-/

import Framewire.Proofs.CallerMoves
import Framewire.Proofs.ConnectionEnds
import Framewire.World.Peer

set_option autoImplicit false

namespace Framewire

open Framewire.Frame

namespace Exchange

variable {calls calls' : List Call} {call : Call} {w w' : World} {h h' : Hall}
  {made made' i number : Nat} {address dialed : Endpoint} {up down : Flow} {payload : Bytes}

/-! ### Rest -/

namespace Holds

/-- At rest the server has taken every connection in. -/
theorem nextId_of_quiet (hh : Holds calls w h made) (hquiet : w.Quiet) :
    h.registry.nextId = made := by
  cases hbacklog : w.network.backlog 0 with
  | nil => exact hh.orderly.nextId_of_backlog hbacklog
  | cons socket rest =>
      obtain ⟨config, own, hn⟩ := hh.hall
      obtain ⟨hlt, rfl, -⟩ := hh.orderly.backlog_cons hbacklog
      obtain ⟨i, dialed, address, up, down, hi, -⟩ := hh.pending hlt
      have haccept := Network.accept_eq_some_iff.2 ⟨rest, hbacklog, rfl⟩
      obtain ⟨notices, hact⟩ := World.act_accept_plain hn haccept ((hh.call hi).fits rfl).far
      exact (hquiet.false_of_act hact trivial).elim

/-- At rest no message waits for the server's sink. -/
theorem queue_of_quiet (hh : Holds calls w h made) (hquiet : w.Quiet) : h.hub.queue.queue = [] := by
  cases hqueue : h.hub.queue.queue with
  | nil => rfl
  | cons message rest =>
      obtain ⟨config, own, hn⟩ := hh.hall
      have hact := World.act_deliver_of_taken hn (Server.deliver_plain hqueue)
      exact (hquiet.false_of_act hact trivial).elim

/-- At rest a slot neither waits nor dials. -/
theorem connected_of_quiet (hh : Holds calls w h made) (hquiet : w.Quiet)
    (hi : calls[i]? = some call) :
    call.stage = .unused ∨ ∃ number address up down,
      call.stage = .connected number address up down := by
  obtain ⟨config, r, received, hn, hd⟩ := (hh.call hi).desk
  obtain ⟨dialed, stage⟩ := call
  cases stage with
  | unused => exact .inl rfl
  | connected number address up down => exact .inr ⟨_, _, _, _, rfl⟩
  | waiting queue =>
      cases queue with
      | nil => exact absurd rfl (hh.call hi).sound.1
      | cons first queue =>
          have hact := World.act_dial_eq hn (show _ = some r from rfl) 1
          rw [Client.Round.dial_of_solo hd.pool] at hact
          exact (hquiet.false_of_act hact trivial).elim
  | dialing first queue =>
      obtain ⟨_, _, _, _, -, -, hact⟩ := hh.settle_eq hi
      exact (hquiet.false_of_act hact trivial).elim

/-- At rest nothing is under way from a client to the server, or back. -/
theorem atRest (hh : Holds calls w h made) (hquiet : w.Quiet)
    (hi : calls[i]? = some ⟨dialed, .connected number address up down⟩) :
    up.AtRest ∧ down.AtRest := by
  obtain ⟨config, own, hn⟩ := hh.hall
  have hlt : number < h.registry.nextId := by
    rw [hh.nextId_of_quiet hquiet]
    exact hh.orderly.number_lt (links_of_connected hi rfl)
  obtain ⟨handler, hs⟩ := hh.served_of_lt hi hlt
  obtain ⟨config', r, received, handler', hc⟩ := hh.called hi
  -- the queues of both sinks are empty
  have hqueue := hh.queue_of_quiet hquiet
  have hup : up.queued = [] := by
    rw [← hs.fits.queued, line, hqueue]
    rfl
  have hqueue' : r.hub.queue.queue = [] := by
    cases hqueue' : r.hub.queue.queue with
    | nil => rfl
    | cons message rest =>
        have hact := World.act_deliver_of_taken hc.node (Client.deliver_plain hqueue')
        exact (hquiet.false_of_act hact trivial).elim
  have hdown : down.queued = [] := hc.desk.queued.symm.trans hqueue'
  -- so every message was handed over
  have hundelivered : up.undelivered = [] := by
    have hnone := (World.act_dispatch_eq hn number).symm.trans (hquiet _ trivial)
    rw [Server.dispatch_plain, Option.map_map, Option.map_eq_none_iff] at hnone
    exact hs.handles.undelivered.symm.trans (Hub.undelivered_eq_nil hs.attached
      hh.orderly.delivering hh.orderly.room hqueue hnone)
  have hundelivered' : down.undelivered = [] := by
    have hnone := (World.act_dispatch_eq hc.node 1).symm.trans (hquiet _ trivial)
    rw [Client.dispatch_plain, Option.map_map, Option.map_eq_none_iff] at hnone
    exact hc.handles.undelivered.symm.trans (Hub.undelivered_eq_nil (hc.attached 1)
      hc.desk.delivering hc.desk.room hqueue' hnone)
  -- so every handler reads and writes as long as there is something
  have hreads := (hs.act_read hn hundelivered 1).symm.trans (hquiet _ trivial)
  have hreads' := (hc.act_read hundelivered' 1).symm.trans (hquiet _ trivial)
  have hwrites := (hs.act_write hn hundelivered).symm.trans (hquiet _ trivial)
  have hwrites' := (hc.act_write hundelivered').symm.trans (hquiet _ trivial)
  refine ⟨⟨?_, Flow.arrived_eq_nil ?_, hundelivered, hup⟩,
    ⟨?_, Flow.arrived_eq_nil ?_, hundelivered', hdown⟩⟩
  · cases hwaiting : up.waiting with
    | nil => rfl
    | cons payload rest => simp [hwaiting] at hwrites'
  · by_contra hbytes
    simp [hbytes] at hreads
  · cases hwaiting : down.waiting with
    | nil => rfl
    | cons payload rest => simp [hwaiting] at hwrites
  · by_contra hbytes
    simp [hbytes] at hreads'

end Holds

/-! ### Sends -/

/-- A client is asked to send one more payload. -/
def Stage.send (payload : Bytes) : Stage → Stage
  | unused => waiting [payload]
  | waiting queue => waiting (queue ++ [payload])
  | dialing first queue => dialing first (queue ++ [payload])
  | connected number address up down => connected number address (up.offer payload) down

theorem Stage.offered_send (stage : Stage) (payload : Bytes) :
    (stage.send payload).offered = stage.offered ++ [payload] := by
  cases stage <;> rfl

theorem Stage.answered_send (stage : Stage) (payload : Bytes) :
    (stage.send payload).answered = stage.answered := by
  cases stage <;> rfl

theorem Stage.link?_send (stage : Stage) (payload : Bytes) :
    (stage.send payload).link? = stage.link? := by
  cases stage <;> rfl

namespace Holds

/-- **A client is asked to send a frame to the server.** -/
theorem ask_client (hh : Holds calls w h made) (hi : calls[i]? = some call)
    (hwhole : Whole payload) :
    Holds (calls.set i ⟨call.dialed, call.stage.send payload⟩)
      (w.ask (i + 1) (.send ⟨payload, call.dialed⟩)).2 h made := by
  obtain ⟨config, r, received, hn, hd⟩ := (hh.call hi).desk
  have hsound := (hh.call hi).sound
  obtain ⟨dialed, stage⟩ := call
  cases stage with
  | unused =>
      rw [World.ask_send_client hn (Client.Round.submit_of_empty hd.pool _)]
      exact hh.change_caller (.waiting [payload]) { r with pool := .solo dialed [payload] .waiting }
        hi rfl rfl hn ⟨by simp, by simpa using hwhole⟩
        ⟨rfl, hd.attends, hd.queued, hd.received, hd.delivering, hd.room⟩ _
  | waiting queue =>
      rw [World.ask_send_client hn (Client.Round.submit_of_solo hd.pool _)]
      refine hh.change_caller (.waiting (queue ++ [payload]))
        { r with pool := .solo dialed (queue ++ [payload]) .waiting } hi rfl rfl hn ⟨by simp, ?_⟩
        ⟨rfl, hd.attends, hd.queued, hd.received, hd.delivering, hd.room⟩ _
      exact List.forall_mem_append.2 ⟨hsound.2, by simpa using hwhole⟩
  | dialing first queue =>
      rw [World.ask_send_client hn (Client.Round.submit_of_solo hd.pool _)]
      refine hh.change_caller (.dialing first (queue ++ [payload]))
        { r with pool := .solo dialed (queue ++ [payload]) (.dialing first) } hi rfl rfl hn ?_
        ⟨rfl, hd.attends, hd.queued, hd.received, hd.delivering, hd.room⟩ _
      have hpayloads : ∀ frame ∈ (first :: queue) ++ [payload], Whole frame :=
        List.forall_mem_append.2 ⟨hsound, by simpa using hwhole⟩
      exact hpayloads
  | connected number address up down =>
      have hfits := (hh.call hi).fits rfl
      rw [World.ask_send_client hn (Client.Round.submit_of_solo hd.pool _)]
      refine hh.change_client w.network
        { r with pool := .solo dialed (up.waiting ++ [payload]) .connected } received
        (up.offer payload) down hi hn (fun _ => rfl) hh.orderly (fun _ _ _ _ => rfl)
        ⟨hsound.1.offer hwhole, hsound.2.1, List.append_ne_nil_of_right_ne_nil _ (by simp)⟩
        ⟨rfl, hd.attends, hd.queued, hd.received, hd.delivering, hd.room⟩ ?_ _
      exact ⟨hfits.near, hfits.far, hfits.seated.congr rfl rfl rfl rfl rfl rfl, hfits.queued,
        hfits.received⟩

/-- An address that the server has a connection to is that of a client. -/
theorem served_of_isConnected (hh : Holds calls w h made)
    (hconnected : (w.node? 0).any (·.machine.isConnected address) = true) :
    ∃ i dialed number up down handler,
      Served calls w h i dialed number address up down handler := by
  obtain ⟨config, own, hn⟩ := hh.hall
  rw [hn] at hconnected
  obtain ⟨number, hcurrent⟩ := (Directory.contains_iff h.registry.current address).1 hconnected
  obtain ⟨hlt, i, hlink⟩ := hh.orderly.current hcurrent
  obtain ⟨⟨dialed, stage⟩, up, down, hi, rfl⟩ := exists_connected hlink
  obtain ⟨handler, hs⟩ := hh.served_of_lt hi hlt
  exact ⟨i, dialed, number, up, down, handler, hs⟩

/-- **The server is asked to send a frame to the address of a client.** -/
theorem ask_server (hh : Holds calls w h made) {handler : Handler}
    (hs : Served calls w h i dialed number address up down handler) (hwhole : Whole payload) :
    ∃ h', Holds (calls.set i ⟨dialed, .connected number address up (down.offer payload)⟩)
      (w.ask 0 (.send ⟨payload, address⟩)).2 h' made := by
  obtain ⟨config, own, hn⟩ := hh.hall
  have hsend : h.registry.send ⟨payload, address⟩ =
      (true, h.registry.modify number fun e => { e with queue := e.queue ++ [payload] }) := by
    simp [Registry.send, hs.current, hs.enrolment]
  rw [World.ask_send_server hn hsend]
  have hsound := (hh.call hs.call).sound
  refine ⟨_, hh.change_server w.network { h with
    registry := h.registry.modify number fun e => { e with queue := e.queue ++ [payload] } }
    up (down.offer payload) hs.call hn (fun _ => rfl)
    (hh.orderly.setHall (Registry.nextId_modify ..) rfl (fun _ hi => hi) rfl rfl
      fun _ hm => .inl hm) ?_ ⟨hsound.1, hsound.2.1.offer hwhole, hsound.2.2⟩
    (fun r received hd => ⟨hd.pool, ?_, hd.queued, hd.received, hd.delivering, hd.room⟩) ?_ _⟩
  · intro other remote hne _
    rw [line_modify, if_neg (Ne.symm hne)]
    rfl
  · obtain ⟨handler', hhandles, hattached⟩ := hd.attends
    exact ⟨handler', ⟨hhandles.framer, hhandles.undelivered⟩, hattached⟩
  · rw [line_modify, if_pos rfl, hs.enrolment]
    exact ⟨hs.fits.near, hs.fits.far, .taken rfl hs.current hs.attached hs.handles,
      hs.fits.queued, hs.fits.received⟩

end Holds

/-! ### What was sent -/

/-- The message that a happening asks a connector to send. -/
def sent? (node : Nat) : World.Happening → Option Message
  | .ask other (.send message) => if other = node then some message else none
  | _ => none

/-- The messages that a connector was asked to send, in order. -/
def sent (node : Nat) (past : List World.Happening) : List Message := past.filterMap (sent? node)

theorem sent_concat (node : Nat) (past : List World.Happening) (x : World.Happening) :
    sent node (past ++ [x]) = sent node past ++ (sent? node x).toList := by
  rw [sent, List.filterMap_append]
  cases hx : sent? node x <;> simp [hx, sent]

/-- Calls are about what was sent: the clients are in the order of their destinations, each was
asked to send what is offered to its connection, and the server what goes back to its address. -/
structure Records (destinations : List Endpoint) (past : List World.Happening) (calls : List Call) :
    Prop where
  dialed : calls.map (·.dialed) = destinations
  offered : ∀ {i : Nat} {call : Call}, calls[i]? = some call →
    call.stage.offered = (sent (i + 1) past).map (·.payload)
  answered : ∀ {i number : Nat} {call : Call} {address : Endpoint}, calls[i]? = some call →
    call.stage.link? = some (number, address) →
      call.stage.answered = ((sent 0 past).filter (·.remote = address)).map (·.payload)
  served : ∀ m ∈ sent 0 past, ∃ i number : Nat,
    (links calls)[i]? = some (some (number, m.remote))

variable {destinations : List Endpoint} {past : List World.Happening} {x : World.Happening}
  {links : List (Option (Nat × Endpoint))} {n : Network}

theorem link?_eq_of_links (hlink : (Exchange.links calls)[i]? = some (some (number, address)))
    (hi : calls[i]? = some call) : call.stage.link? = some (number, address) := by
  rw [Exchange.links, List.getElem?_map, hi] at hlink
  exact Option.some.inj hlink

theorem links_eq_of_link? (hi : calls[i]? = some call)
    (hlink : call.stage.link? = some (number, address)) :
    (Exchange.links calls)[i]? = some (some (number, address)) := by
  rw [Exchange.links, List.getElem?_map, hi, Option.map_some, hlink]

/-- Connections stay. -/
theorem Keeps.links_eq (hk : Keeps calls calls')
    (hlink : (Exchange.links calls)[i]? = some (some (number, address))) :
    (Exchange.links calls')[i]? = some (some (number, address)) := by
  obtain ⟨call, up, down, hi, hstage⟩ := exists_connected hlink
  obtain ⟨call', hi', -, -, -, hlink'⟩ := hk.call hi
  exact links_eq_of_link? hi' (hlink' _ (by rw [hstage]; rfl))

theorem Keeps.of_getElem? (hk : Keeps calls calls') {call' : Call} (hi' : calls'[i]? = some call') :
    ∃ call, calls[i]? = some call ∧ call'.dialed = call.dialed ∧
      call'.stage.offered = call.stage.offered ∧ call'.stage.answered = call.stage.answered ∧
      ∀ link, call.stage.link? = some link → call'.stage.link? = some link := by
  obtain ⟨hlt, -⟩ := List.getElem?_eq_some_iff.1 hi'
  rw [hk.length] at hlt
  have hi := List.getElem?_eq_getElem hlt
  obtain ⟨other, hother, hrest⟩ := hk.call hi
  obtain rfl := Option.some.inj (hi'.symm.trans hother)
  exact ⟨_, hi, hrest⟩

/-- A client without a connection got nothing. -/
theorem Stage.answered_of_link? {stage : Stage} (hlink : stage.link? = none) :
    stage.answered = [] := by
  cases stage <;> first | rfl | simp [Stage.link?] at hlink

namespace Records

/-- Where no payload is sent, calls go on to be about what was sent.  A new connection is from an
address to which nothing could be sent before. -/
theorem keeps (hr : Records destinations past calls) (hk : Keeps calls calls')
    (hinj : ∀ {i j number number' : Nat} {address : Endpoint},
      (Exchange.links calls')[i]? = some (some (number, address)) →
        (Exchange.links calls')[j]? = some (some (number', address)) → i = j)
    (hx : ∀ node, sent? node x = none) : Records destinations (past ++ [x]) calls' := by
  have hsent : ∀ node, sent node (past ++ [x]) = sent node past := by
    intro node
    rw [sent_concat, hx, Option.toList_none, List.append_nil]
  refine ⟨?_, ?_, ?_, ?_⟩
  · rw [← hr.dialed]
    refine List.ext_getElem? fun i => ?_
    rw [List.getElem?_map, List.getElem?_map]
    cases hi : calls'[i]? with
    | none =>
        rw [List.getElem?_eq_none_iff, hk.length] at hi
        rw [List.getElem?_eq_none hi]
    | some call' =>
        obtain ⟨call, hi, hdialed, -⟩ := hk.of_getElem? hi
        rw [hi, Option.map_some, Option.map_some, hdialed]
  · intro i call' hi'
    obtain ⟨call, hi, -, hoffered, -⟩ := hk.of_getElem? hi'
    rw [hoffered, hr.offered hi, hsent]
  · intro i number call' address hi' hlink'
    obtain ⟨call, hi, -, -, hanswered, hlink⟩ := hk.of_getElem? hi'
    rw [hanswered, hsent]
    cases hcall : call.stage.link? with
    | some link =>
        obtain rfl := Option.some.inj ((hlink link hcall).symm.trans hlink')
        exact hr.answered hi hcall
    | none =>
        rw [Stage.answered_of_link? hcall, List.filter_eq_nil_iff.2, List.map_nil]
        intro m hm heq
        obtain ⟨j, number', hj⟩ := hr.served m hm
        rw [of_decide_eq_true heq] at hj
        obtain rfl := hinj (links_eq_of_link? hi' hlink') (hk.links_eq hj)
        simp [link?_eq_of_links hj hi] at hcall
  · intro m hm
    rw [hsent] at hm
    obtain ⟨j, number, hj⟩ := hr.served m hm
    exact ⟨j, number, hk.links_eq hj⟩

/-- A client is asked to send a payload to its destination. -/
theorem send_client (hr : Records destinations past calls) (hi : calls[i]? = some call)
    (payload : Bytes) :
    Records destinations (past ++ [.ask (i + 1) (.send ⟨payload, call.dialed⟩)])
      (calls.set i ⟨call.dialed, call.stage.send payload⟩) := by
  have hsent : ∀ node, sent node (past ++ [.ask (i + 1) (.send ⟨payload, call.dialed⟩)]) =
      sent node past ++ if i + 1 = node then [⟨payload, call.dialed⟩] else [] := by
    intro node
    rw [sent_concat, sent?]
    split <;> rfl
  have hzero : sent 0 (past ++ [.ask (i + 1) (.send ⟨payload, call.dialed⟩)]) = sent 0 past := by
    rw [hsent, if_neg (Nat.succ_ne_zero i), List.append_nil]
  have hlinks : Exchange.links (calls.set i ⟨call.dialed, call.stage.send payload⟩) =
      Exchange.links calls := map_set_of_eq hi (call.stage.link?_send payload)
  refine ⟨?_, ?_, ?_, ?_⟩
  · rw [← hr.dialed]
    exact map_set_of_eq hi rfl
  · intro j other hj
    rw [hsent, List.map_append]
    by_cases hji : j = i
    · subst hji
      obtain rfl := Option.some.inj ((getElem?_set_self hi _).symm.trans hj)
      rw [if_pos rfl, Stage.offered_send, hr.offered hi]
      rfl
    · rw [List.getElem?_set, if_neg (Ne.symm hji)] at hj
      rw [if_neg (by omega), hr.offered hj, List.map_nil, List.append_nil]
  · intro j number other address hj hlink
    rw [hzero]
    by_cases hji : j = i
    · subst hji
      obtain rfl := Option.some.inj ((getElem?_set_self hi _).symm.trans hj)
      rw [Stage.answered_send]
      exact hr.answered hi ((call.stage.link?_send payload).symm.trans hlink)
    · rw [List.getElem?_set, if_neg (Ne.symm hji)] at hj
      exact hr.answered hj hlink
  · rw [hzero, hlinks]
    exact hr.served

/-- The server is asked to send a payload to the address of a client. -/
theorem send_server (hr : Records destinations past calls)
    (hinj : ∀ {i j number number' : Nat} {address : Endpoint},
      (Exchange.links calls)[i]? = some (some (number, address)) →
        (Exchange.links calls)[j]? = some (some (number', address)) → i = j)
    (hi : calls[i]? = some ⟨dialed, .connected number address up down⟩) (payload : Bytes) :
    Records destinations (past ++ [.ask 0 (.send ⟨payload, address⟩)])
      (calls.set i ⟨dialed, .connected number address up (down.offer payload)⟩) := by
  have hlinks : Exchange.links
      (calls.set i ⟨dialed, .connected number address up (down.offer payload)⟩) =
        Exchange.links calls := map_set_of_eq hi rfl
  have hzero : sent 0 (past ++ [.ask 0 (.send ⟨payload, address⟩)]) =
      sent 0 past ++ [⟨payload, address⟩] := sent_concat ..
  have hother : ∀ j, sent (j + 1) (past ++ [.ask 0 (.send ⟨payload, address⟩)]) =
      sent (j + 1) past := by
    intro j
    rw [sent_concat, sent?, if_neg (Nat.succ_ne_zero j).symm, Option.toList_none, List.append_nil]
  refine ⟨?_, ?_, ?_, ?_⟩
  · rw [← hr.dialed]
    exact map_set_of_eq hi rfl
  · intro j other hj
    rw [hother]
    by_cases hji : j = i
    · subst hji
      obtain rfl := Option.some.inj ((getElem?_set_self hi _).symm.trans hj)
      have hoffered : up.offered = _ := hr.offered hi
      exact hoffered
    · rw [List.getElem?_set, if_neg (Ne.symm hji)] at hj
      exact hr.offered hj
  · intro j number' other remote hj hlink
    rw [hzero, List.filter_append, List.map_append]
    by_cases hji : j = i
    · subst hji
      obtain rfl := Option.some.inj ((getElem?_set_self hi _).symm.trans hj)
      obtain ⟨-, rfl⟩ := Prod.mk.inj (Option.some.inj hlink)
      have hanswered : down.offered = _ := hr.answered hi rfl
      change down.offered ++ [payload] = _
      rw [hanswered, List.filter_cons, if_pos (by simp)]
      rfl
    · rw [List.getElem?_set, if_neg (Ne.symm hji)] at hj
      have hne : address ≠ remote := by
        rintro rfl
        exact hji (hinj (links_eq_of_link? hj hlink) (links_of_connected hi rfl))
      rw [hr.answered hj hlink, List.filter_cons, if_neg (by simpa using hne)]
      simp
  · intro m hm
    rw [hlinks]
    rw [hzero] at hm
    rcases List.mem_append.1 hm with hm | hm
    · exact hr.served m hm
    · rw [List.mem_singleton.1 hm]
      exact ⟨i, number, links_of_connected hi rfl⟩

end Records

/-! ### Runs -/

/-- An endpoint that a connector has something to send to: for the server, one that it has a
connection to, and for a client, its destination. -/
def Reaches (destinations : List Endpoint) (w : World) (remote : Endpoint) : Nat → Prop
  | 0 => (w.node? 0).any (·.machine.isConnected remote) = true
  | i + 1 => destinations[i]? = some remote

instance (destinations : List Endpoint) (w : World) (remote : Endpoint) (node : Nat) :
    Decidable (Reaches destinations w remote node) :=
  match node with
  | 0 => inferInstanceAs (Decidable (_ = true))
  | _ + 1 => inferInstanceAs (Decidable (_ = some _))

/-- Something is as the exchange law asks for: a client is asked to send a frame to its destination,
or the server is asked to send one to an address that it has a connection to; a connector does
something by itself, but closes no connection for being idle, gives up no dial, and makes no
connection from an address that another one was made from; or time passes. -/
def Calm (destinations : List Endpoint) (w : World) : World.Happening → Prop
  | .ask node (.send message) => Whole message.payload ∧ Reaches destinations w message.remote node
  | .act (.expire _ _) | .act (.giveUp _ _) => False
  | .act action => (w.happen (.act action)).network.Distinct
  | _ => False

instance (destinations : List Endpoint) (w : World) (x : World.Happening) :
    Decidable (Calm destinations w x) :=
  match x with
  | .ask _ (.send _) => inferInstanceAs (Decidable (_ ∧ _))
  | .act action => match action with
    | .expire _ _ | .giveUp _ _ => isFalse id
    | .accept _ | .read _ _ _ | .dispatch _ _ | .write _ _ | .deliver _ | .drain _ _ | .dial _ _
    | .settle _ _ | .evict _ _ | .pass _ => inferInstanceAs (Decidable (Network.Distinct _))
  | .ask _ (.setReceiver _) | .ask _ .start | .ask _ .stop | .ask _ .destroy | .use _ => isFalse id

/-- Everything that happens is as the exchange law asks for. -/
def Undisturbed (destinations : List Endpoint) (w : World) : List World.Happening → Prop
  | [] => True
  | x :: happenings => Calm destinations w x ∧ Undisturbed destinations (w.happen x) happenings

instance decidableUndisturbed (destinations : List Endpoint) (w : World) :
    (happenings : List World.Happening) → Decidable (Undisturbed destinations w happenings)
  | [] => isTrue trivial
  | x :: happenings =>
    have := decidableUndisturbed destinations (w.happen x) happenings
    inferInstanceAs (Decidable (_ ∧ _))

/-- A world holds calls that are about what was sent. -/
def Tracks (destinations : List Endpoint) (past : List World.Happening) (w : World) : Prop :=
  ∃ calls h made, Holds calls w h made ∧ Records destinations past calls

variable {action : World.Action} {happenings : List World.Happening}

/-- What connectors do by themselves, undisturbed, is work, or time passes. -/
theorem Calm.act (hcalm : Calm destinations w (.act action)) :
    (w.happen (.act action)).network.Distinct ∧
      (action.IsWork ∨ ∃ ms, action = .pass ms) := by
  cases action with
  | expire node id => exact hcalm.elim
  | giveUp node slot => exact hcalm.elim
  | pass ms => exact ⟨hcalm, .inr ⟨ms, rfl⟩⟩
  | _ => exact ⟨hcalm, .inl trivial⟩

/-- The socket from which a connection was made belongs to a client. -/
theorem Holds.link_of_twin (hh : Holds calls w h made) {k : Nat} {s : Socket}
    (hs : w.network.socket? k = some s) (htwin : s.twin = k + 1) :
    ∃ i number : Nat, k = 2 * number ∧
      (Exchange.links calls)[i]? = some (some (number, s.here)) := by
  obtain ⟨hlt, -⟩ := List.getElem?_eq_some_iff.1 hs
  rw [hh.orderly.sockets] at hlt
  obtain ⟨i, address, hlink⟩ := hh.orderly.owner (show k / 2 < made by omega)
  obtain ⟨call, up, down, hi, hstage⟩ := exists_connected hlink
  have hfits := (hh.call hi).fits hstage
  rcases Nat.mod_two_eq_zero_or_one k with heven | hodd
  · have hk : k = 2 * (k / 2) := by omega
    rw [hk] at hs
    obtain rfl := Option.some.inj (hs.symm.trans hfits.near)
    exact ⟨i, k / 2, hk, hlink⟩
  · have hk : k = 2 * (k / 2) + 1 := by omega
    rw [hk] at hs
    obtain rfl := Option.some.inj (hs.symm.trans hfits.far)
    change 2 * (k / 2) = k + 1 at htwin
    omega

/-- In a world that holds calls no two connections were made from one address. -/
theorem Holds.distinct (hh : Holds calls w h made) : w.network.Distinct := by
  rw [Network.Distinct, List.pairwise_iff_getElem]
  intro a b ha hb hlt htwin htwin' heq
  simp only [List.getElem_zipIdx, Nat.zero_add] at htwin htwin' heq
  rw [List.length_zipIdx] at ha hb
  obtain ⟨i, number, hnumber, hi⟩ :=
    hh.link_of_twin (List.getElem?_eq_getElem ha) htwin
  obtain ⟨j, number', hnumber', hj⟩ :=
    hh.link_of_twin (List.getElem?_eq_getElem hb) htwin'
  rw [heq] at hi
  obtain rfl := hh.orderly.address_inj hi hj
  obtain ⟨rfl, -⟩ := Prod.mk.inj (Option.some.inj (Option.some.inj (hi.symm.trans hj)))
  omega

/-- Time passes. -/
theorem Holds.pass (hh : Holds calls w h made) (ms : Nat) :
    Holds calls { w with now := w.now + ms } h made where
  hall := hh.hall
  length := hh.length
  reach := hh.reach
  orderly := hh.orderly
  call := fun hi => (hh.call hi).keep rfl fun _ _ _ => rfl

/-- On a host that has ports for all clients, whatever connectors do is undisturbed, if it closes no
connection for being idle and gives up no dial. -/
theorem Holds.calm_of_spares (hh : Holds calls w h made)
    (hspares : w.network.host.Spares calls.length) (hwork : action.IsWork) :
    Calm destinations w (.act action) := by
  have hdistinct : (w.happen (.act action)).network.Distinct := by
    rw [World.happen]
    cases hact : w.act action with
    | none => exact hh.distinct
    | some w' =>
        obtain ⟨calls', h', made', hh', -⟩ := hh.act hwork hact (.inr hspares)
        exact hh'.distinct
  cases action with
  | pass ms => exact hwork.elim
  | expire node id => exact hwork.elim
  | giveUp node slot => exact hwork.elim
  | _ => exact hdistinct

namespace Tracks

/-- A connector does something by itself, or time passes. -/
theorem act (ht : Tracks destinations past w) (hcalm : Calm destinations w (.act action)) :
    Tracks destinations (past ++ [.act action]) (w.happen (.act action)) := by
  obtain ⟨calls, h, made, hh, hr⟩ := ht
  obtain ⟨hdistinct, hwork⟩ := hcalm.act
  have hstay := hr.keeps (x := .act action) (.refl calls) hh.orderly.address_inj fun _ => rfl
  rw [World.happen] at hdistinct ⊢
  cases hact : w.act action with
  | none => exact ⟨calls, h, made, hh, hstay⟩
  | some w' =>
      rw [hact] at hdistinct
      rcases hwork with hwork | ⟨ms, rfl⟩
      · obtain ⟨calls', h', made', hh', hk, -⟩ := hh.act hwork hact (.inl hdistinct)
        exact ⟨calls', h', made', hh', hr.keeps hk hh'.orderly.address_inj fun _ => rfl⟩
      · obtain rfl := Option.some.inj hact
        exact ⟨calls, h, made, hh.pass ms, hstay⟩

/-- A connector is asked to send a frame. -/
theorem ask (ht : Tracks destinations past w) {node : Nat} {message : Message}
    (hcalm : Calm destinations w (.ask node (.send message))) :
    Tracks destinations (past ++ [.ask node (.send message)])
      (w.happen (.ask node (.send message))) := by
  obtain ⟨calls, h, made, hh, hr⟩ := ht
  obtain ⟨payload, remote⟩ := message
  cases node with
  | zero =>
      obtain ⟨hwhole, hconnected⟩ := hcalm
      obtain ⟨i, dialed, number, up, down, handler, hs⟩ := hh.served_of_isConnected hconnected
      obtain ⟨h', hh'⟩ := hh.ask_server hs hwhole
      exact ⟨_, h', made, hh', hr.send_server hh.orderly.address_inj hs.call payload⟩
  | succ i =>
      obtain ⟨hwhole, hdestination⟩ := hcalm
      rw [Reaches, ← hr.dialed, List.getElem?_map] at hdestination
      obtain ⟨call, hi, rfl⟩ := Option.map_eq_some_iff.1 hdestination
      exact ⟨_, h, made, hh.ask_client hi hwhole, hr.send_client hi payload⟩

/-- **Whatever happens undisturbed, a world goes on to hold calls that are about what was sent.** -/
theorem happen (ht : Tracks destinations past w) (hcalm : Calm destinations w x) :
    Tracks destinations (past ++ [x]) (w.happen x) := by
  cases x with
  | act action => exact ht.act hcalm
  | use use => exact hcalm.elim
  | ask node request =>
      cases request with
      | send message => exact ht.ask hcalm
      | setReceiver receiver => exact hcalm.elim
      | start => exact hcalm.elim
      | stop => exact hcalm.elim
      | destroy => exact hcalm.elim

/-- **After an undisturbed run calls are about what was sent in it.** -/
theorem after (ht : Tracks destinations past w)
    (hhappenings : Undisturbed destinations w happenings) :
    Tracks destinations (past ++ happenings) (w.after happenings) := by
  induction happenings generalizing past w with
  | nil => rwa [List.append_nil]
  | cons x happenings ih =>
      rw [World.after_cons, List.append_cons]
      exact ih (ht.happen hhappenings.1) hhappenings.2

end Tracks

/-- Sending changes nothing on the network. -/
theorem network_ask_send (w : World) (node : Nat) (message : Message) :
    (w.ask node (.send message)).2.network = w.network := by
  have hcalled : ∀ result, (w.called node result).2.network = w.network := fun result => by
    cases result <;> rfl
  rw [World.ask]
  cases w.node? node with
  | none => rfl
  | some n =>
      dsimp only
      cases n.machine with
      | server s => exact hcalled _
      | client c => exact hcalled _
      | pool r => exact hcalled _

theorem Calm.host_eq (hcalm : Calm destinations w x) :
    (w.happen x).network.host = w.network.host := by
  cases x with
  | act action =>
      rw [World.happen]
      cases hact : w.act action with
      | none => rfl
      | some w' => exact World.host_act hact
  | use use => exact hcalm.elim
  | ask node request =>
      cases request with
      | send message => exact congrArg Network.host (network_ask_send w node message)
      | setReceiver receiver => exact hcalm.elim
      | start => exact hcalm.elim
      | stop => exact hcalm.elim
      | destroy => exact hcalm.elim

/-- In an undisturbed run the network stays on its host. -/
theorem Undisturbed.host_eq (hhappenings : Undisturbed destinations w happenings) :
    (w.after happenings).network.host = w.network.host := by
  induction happenings generalizing w with
  | nil => rfl
  | cons x happenings ih => exact (ih hhappenings.2).trans hhappenings.1.host_eq

/-- What work comes to, if each action of it is possible. -/
def take? (w : World) (work : List World.Action) : Option World := work.foldlM World.act w

/-- **Work comes to an end.** -/
theorem Holds.length_le (hh : Holds calls w h made) {work : List World.Action}
    (hwork : ∀ action ∈ work, action.IsWork) (htake : take? w work = some w')
    (hundisturbed : Undisturbed destinations w (work.map .act)) :
    work.length ≤ effort calls w := by
  induction work generalizing w calls h made with
  | nil => exact Nat.zero_le _
  | cons action work ih =>
      rw [List.forall_mem_cons] at hwork
      obtain ⟨w₁, hact, htake⟩ := Option.bind_eq_some_iff.1 htake
      obtain ⟨hcalm, hundisturbed⟩ := hundisturbed
      have hhappen : w.happen (.act action) = w₁ := by rw [World.happen, hact]; rfl
      have hdistinct := hcalm.act.1
      rw [hhappen] at hdistinct hundisturbed
      obtain ⟨calls', h', made', hh', -, hlt⟩ := hh.act hwork.1 hact (.inl hdistinct)
      exact Nat.lt_of_le_of_lt (ih hh' hwork.2 htake hundisturbed) hlt

/-- **Work can be done until there is rest**, if the host has ports for all clients. -/
theorem Holds.exists_quiet (hh : Holds calls w h made)
    (hspares : w.network.host.Spares calls.length) (destinations : List Endpoint) :
    ∃ work : List World.Action, (∀ action ∈ work, action.IsWork) ∧
      Undisturbed destinations w (work.map .act) ∧ (w.after (work.map .act)).Quiet := by
  -- induction on the effort: where there is no rest, some work is possible and takes effort off
  induction heffort : effort calls w using Nat.strongRecOn generalizing w calls h made with
  | ind effort ih =>
      by_cases hquiet : w.Quiet
      · exact ⟨[], by simp, trivial, hquiet⟩
      · obtain ⟨action, hx⟩ := not_forall.1 hquiet
        obtain ⟨hwork, hne⟩ := Classical.not_imp.1 hx
        obtain ⟨w₁, hact⟩ := Option.ne_none_iff_exists'.1 hne
        have hhappen : w.happen (.act action) = w₁ := by rw [World.happen, hact]; rfl
        have hcalm : Calm destinations w (.act action) := hh.calm_of_spares hspares hwork
        obtain ⟨calls', h', made', hh', hk, hlt⟩ := hh.act hwork hact (.inr hspares)
        rw [← World.host_act hact, ← hk.length] at hspares
        obtain ⟨work, hwork', hundisturbed, hrest⟩ := ih _ (heffort ▸ hlt) hh' hspares rfl
        refine ⟨action :: work, List.forall_mem_cons.2 ⟨hwork, hwork'⟩,
          ⟨hcalm, ?_⟩, ?_⟩
        · rw [hhappen]
          exact hundisturbed
        · rw [List.map_cons, World.after_cons, hhappen]
          exact hrest

end Exchange

end Framewire
