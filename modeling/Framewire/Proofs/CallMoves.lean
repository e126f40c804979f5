/-
**What the server does brings calls nearer to their ends.**

In a world that holds calls, every action of the server is about one connection: it reads, hands
over, delivers or writes something of it, or takes it in.  After that the world holds the calls
again, and there is less to do for them.

Main definitions:

* `Exchange.Stage.effort`, `Exchange.effort` — how much is left to do for a call, and for all;
* `Exchange.Keeps` — calls are about the same payloads;
* `Exchange.Proceeds` — a world goes on to hold calls, with less to do;
* `Exchange.Served` — what the server holds of a connection that it has taken in.

Main results:

* `Exchange.Served.act_read`, `Exchange.Served.act_write` — what reading and writing come to;
* `Exchange.Holds.act_server_accept`, `Exchange.Holds.act_server_read`,
  `Exchange.Holds.act_server_dispatch`, `Exchange.Holds.act_server_deliver`,
  `Exchange.Holds.act_server_write` — **each action of the server keeps the calls of a world and
  takes effort off them**.
-/

import Framewire.Proofs.Calls

set_option autoImplicit false

namespace Framewire

open Framewire.Frame

namespace Exchange

/-! ### Effort -/

/-- How much is left to do for a call. -/
def Stage.effort : Stage → Nat
  | unused => 0
  | waiting queue => 4 + (queue.length + 4 * queue.flatten.length)
  | dialing first queue => 3 + ((first :: queue).length + 4 * (first :: queue).flatten.length)
  | connected _ _ up down => up.effort + down.effort

/-- How much is left to do for each of these calls, together. -/
def outstanding : List Call → Nat
  | [] => 0
  | call :: calls => call.stage.effort + outstanding calls

/-- How much is left to do for all calls, and to take their connections in. -/
def effort (calls : List Call) (w : World) : Nat :=
  outstanding calls + (w.network.backlog 0).length

/-- Calls are about the same payloads as before, and over the same connections. -/
structure Keeps (calls calls' : List Call) : Prop where
  length : calls'.length = calls.length
  call : ∀ {i : Nat} {call : Call}, calls[i]? = some call → ∃ call', calls'[i]? = some call' ∧
    call'.dialed = call.dialed ∧ call'.stage.offered = call.stage.offered ∧
    call'.stage.answered = call.stage.answered ∧
    ∀ link, call.stage.link? = some link → call'.stage.link? = some link

/-- A world goes on to hold calls, with less to do for them. -/
def Proceeds (calls : List Call) (w w' : World) : Prop :=
  ∃ calls' h' made', Holds calls' w' h' made' ∧ Keeps calls calls' ∧
    effort calls' w' < effort calls w

variable {calls calls' : List Call} {call call' : Call} {w w' : World} {h h' : Hall}
  {made made' i j id most number : Nat} {address dialed : Endpoint} {up down up' down' : Flow}

theorem Keeps.refl (calls : List Call) : Keeps calls calls where
  length := rfl
  call := fun hi => ⟨_, hi, rfl, rfl, rfl, fun _ hlink => hlink⟩

theorem Keeps.set (hi : calls[i]? = some call) (hdialed : call'.dialed = call.dialed)
    (hoffered : call'.stage.offered = call.stage.offered)
    (hanswered : call'.stage.answered = call.stage.answered)
    (hlink : ∀ link, call.stage.link? = some link → call'.stage.link? = some link) :
    Keeps calls (calls.set i call') where
  length := List.length_set
  call := by
    intro j other hj
    by_cases hji : j = i
    · subst hji
      obtain rfl := Option.some.inj (hi.symm.trans hj)
      exact ⟨call', getElem?_set_self hi call', hdialed, hoffered, hanswered, hlink⟩
    · refine ⟨other, ?_, rfl, rfl, rfl, fun _ hlink => hlink⟩
      rw [List.getElem?_set, if_neg (Ne.symm hji), hj]

/-- What is left to do for one call no longer counts, and that for another one does. -/
theorem outstanding_set (hi : calls[i]? = some call) (call' : Call) :
    outstanding (calls.set i call') + call.stage.effort =
      outstanding calls + call'.stage.effort := by
  induction calls generalizing i with
  | nil => simp at hi
  | cons first calls ih =>
      cases i with
      | zero =>
          obtain rfl := Option.some.inj hi
          simp only [List.set_cons_zero, outstanding]
          omega
      | succ i =>
          have := ih hi
          simp only [List.set_cons_succ, outstanding]
          omega

/-- Where one call comes nearer to its end, all of them do. -/
theorem Holds.proceeds (hh' : Holds (calls.set i call') w' h' made') (hi : calls[i]? = some call)
    (hdialed : call'.dialed = call.dialed) (hoffered : call'.stage.offered = call.stage.offered)
    (hanswered : call'.stage.answered = call.stage.answered)
    (hlink : ∀ link, call.stage.link? = some link → call'.stage.link? = some link)
    (hlt : call'.stage.effort + (w'.network.backlog 0).length <
      call.stage.effort + (w.network.backlog 0).length) : Proceeds calls w w' := by
  refine ⟨_, h', made', hh', .set hi hdialed hoffered hanswered hlink, ?_⟩
  have hsum := outstanding_set hi call'
  rw [effort, effort]
  omega

/-- Where only the flows of a connection come nearer to their ends. -/
theorem Holds.proceeds_flows
    (hh' : Holds (calls.set i ⟨dialed, .connected number address up' down'⟩) w' h' made')
    (hi : calls[i]? = some ⟨dialed, .connected number address up down⟩)
    (hup : up'.offered = up.offered) (hdown : down'.offered = down.offered)
    (hbacklog : w'.network.backlog 0 = w.network.backlog 0)
    (hlt : up'.effort + down'.effort < up.effort + down.effort) : Proceeds calls w w' := by
  refine hh'.proceeds hi rfl hup hdown (fun _ hlink => hlink) ?_
  rw [hbacklog]
  exact Nat.add_lt_add_right hlt _

/-! ### Lines after an operation -/

section Lines

variable {n : Network} {other : Nat} {remote : Endpoint}

theorem line_modifySocket_of_ne {socket : Nat}
    (hsocket : socket = 2 * number ∨ socket = 2 * number + 1) (hother : other ≠ number)
    (f : Socket → Socket) :
    line (n.modifySocket socket f) h other remote = line n h other remote := by
  have hnear : ¬socket = 2 * other := by omega
  have hfar : ¬socket = 2 * other + 1 := by omega
  simp only [line, Network.socket?_modifySocket, hnear, hfar, if_false]

theorem line_modifySocket_near (f : Socket → Socket) :
    line (n.modifySocket (2 * number) f) h number address =
      { line n h number address with near := (line n h number address).near.map f } := by
  have hfar : ¬2 * number = 2 * number + 1 := by omega
  simp only [line, Network.socket?_modifySocket, hfar, if_false, if_true]

theorem line_modifySocket_far (f : Socket → Socket) :
    line (n.modifySocket (2 * number + 1) f) h number address =
      { line n h number address with far := (line n h number address).far.map f } := by
  have hnear : ¬2 * number + 1 = 2 * number := by omega
  simp only [line, Network.socket?_modifySocket, hnear, if_false, if_true]

theorem line_setHandler (handler : Handler) :
    line n { h with hub := h.hub.setHandler id handler } other remote =
      { line n h other remote with
        attached := if id = other then (h.hub.attached? other).map fun a => { a with handler }
          else h.hub.attached? other } := by
  rw [line, Hub.attached?_setHandler]
  rfl

/-- A message goes to the end of the server's queue. -/
theorem line_enqueue (message : Message) :
    line n { h with hub := { h.hub with queue :=
        { h.hub.queue with queue := h.hub.queue.queue ++ [message] } } } other remote =
      { line n h other remote with
        queued := (line n h other remote).queued ++
          if message.remote = remote then [message] else [] } := by
  simp [line, List.filter_append, List.filter_singleton]
  rfl

/-- The server's sink takes the first message. -/
theorem line_deliver {message : Message} {rest : List Message}
    (hqueue : h.hub.queue.queue = message :: rest) :
    line n { h with
        hub := { h.hub with queue := h.hub.queue.deliver fun _ => none }
        received := message :: h.received } other remote =
      { line n h other remote with
        queued := rest.filter (·.remote = remote)
        received := (line n h other remote).received ++
          if message.remote = remote then [message] else [] } := by
  have hdeliver : h.hub.queue.deliver (fun _ => none) = _ :=
    SinkQueue.deliver_of_taken hqueue rfl
  simp [line, hdeliver, List.filter_append, List.filter_singleton]
  rfl

/-- The queue of an enrolment changes. -/
theorem line_modify (f : Enrolment → Enrolment) :
    line n { h with registry := h.registry.modify id f } other remote =
      { line n h other remote with
        enrolment := if id = other then (h.registry.enrolment? other).map f
          else h.registry.enrolment? other } := by
  rw [line, Registry.enrolment?_modify]
  rfl

end Lines

/-! ### The server -/

/-- What the server holds of a connection that it has taken in. -/
structure Served (calls : List Call) (w : World) (h : Hall) (i : Nat) (dialed : Endpoint)
    (number : Nat) (address : Endpoint) (up down : Flow) (handler : Handler) : Prop where
  call : calls[i]? = some ⟨dialed, .connected number address up down⟩
  fits : Fits dialed number address up down (line w.network h number address)
  enrolment : h.registry.enrolment? number = some ⟨address, down.waiting, true⟩
  current : h.registry.current.get? address = some number
  attached : h.hub.attached? number = some ⟨number, 2 * number + 1, handler⟩
  handles : Handles up handler

/-- An attached connection is that of a call. -/
theorem Holds.served (hh : Holds calls w h made) {a : Attached}
    (ha : h.hub.attached? number = some a) :
    ∃ i dialed address up down handler, Served calls w h i dialed number address up down handler ∧
      a = ⟨number, 2 * number + 1, handler⟩ := by
  have hlt : number < h.registry.nextId := by
    by_contra hge
    have := hh.orderly.attached number (by omega)
    simp [this] at ha
  obtain ⟨i, address, hlink⟩ := hh.orderly.owner (Nat.lt_of_lt_of_le hlt hh.orderly.taken)
  obtain ⟨⟨dialed, stage⟩, up, down, hi, rfl⟩ := exists_connected hlink
  have hfits := (hh.call hi).fits rfl
  cases hfits.seated with
  | pending _ hattached =>
      rw [show (line w.network h number address).attached = some a from ha] at hattached
      simp at hattached
  | taken henrolment hcurrent hattached hhandles =>
      obtain rfl := Option.some.inj (ha.symm.trans hattached)
      exact ⟨i, dialed, address, up, down, _, ⟨hi, hfits, henrolment, hcurrent, ha, hhandles⟩, rfl⟩

/-- Everything of a call that the server has taken in is found under its number. -/
theorem Holds.served_of_lt (hh : Holds calls w h made)
    (hi : calls[i]? = some ⟨dialed, .connected number address up down⟩)
    (hlt : number < h.registry.nextId) :
    ∃ handler, Served calls w h i dialed number address up down handler := by
  have hfits := (hh.call hi).fits rfl
  cases hfits.seated with
  | pending henrolment =>
      have hnone : h.registry.enrolments[number]? = none := henrolment
      exact absurd hlt (Nat.not_lt.2 (List.getElem?_eq_none_iff.1 hnone))
  | taken henrolment hcurrent hattached hhandles =>
      exact ⟨_, hi, hfits, henrolment, hcurrent, hattached, hhandles⟩

section Server

variable {config : ServerConfig} {own : Endpoint} {handler : Handler}

theorem Served.selecting?_eq (hs : Served calls w h i dialed number address up down handler)
    (hn : w.node? 0 = some ⟨.server (.plain config own h.registry h.hub), h.received⟩)
    (hundelivered : up.undelivered = []) :
    w.selecting? 0 number = some (.server (.plain config own h.registry h.hub),
      ⟨number, 2 * number + 1, handler⟩) := by
  rw [World.selecting?_eq hn (show _ = some h.hub from rfl), Hub.selecting?_eq_some_iff.2
    ⟨hs.attached, hs.handles.undelivered.trans hundelivered⟩]
  rfl

/-- The connection of a handler that waits for bytes or payloads is that of a call, and everything
that its handler has read was handed over. -/
theorem Holds.served_of_selecting (hh : Holds calls w h made)
    (hn : w.node? 0 = some ⟨.server (.plain config own h.registry h.hub), h.received⟩)
    {selected : Machine × Attached} (hselecting : w.selecting? 0 number = some selected) :
    ∃ i dialed address up down handler,
      Served calls w h i dialed number address up down handler ∧ up.undelivered = [] := by
  rw [World.selecting?_eq hn (show _ = some h.hub from rfl)] at hselecting
  obtain ⟨a, ha, -⟩ := Option.map_eq_some_iff.1 hselecting
  obtain ⟨hattached, hundelivered⟩ := Hub.selecting?_eq_some_iff.1 ha
  obtain ⟨i, dialed, address, up, down, handler, hs, rfl⟩ := hh.served hattached
  exact ⟨i, dialed, address, up, down, handler, hs,
    hs.handles.undelivered.symm.trans hundelivered⟩

/-- The server reads what has arrived from a client. -/
theorem Served.act_read (hs : Served calls w h i dialed number address up down handler)
    (hn : w.node? 0 = some ⟨.server (.plain config own h.registry h.hub), h.received⟩)
    (hundelivered : up.undelivered = []) (most : Nat) :
    w.act (.read 0 number most) = if up.arrived.take most = [] then none else
      some (w.set 0 ⟨.server (.plain config own h.registry
          (h.hub.setHandler number (handler.receive w.now (up.arrived.take most)))), h.received⟩
        (w.network.modifySocket (2 * number + 1) fun s => { s with arrived := s.arrived.drop most })
        w.notices) := by
  rw [World.act_read_of_selecting (hs.selecting?_eq hn hundelivered) hs.fits.far rfl]
  dsimp only
  split
  · rfl
  · next hbytes =>
    have hreact : handler.react w.now (.read (up.arrived.take most)) =
        { handler := handler.receive w.now (up.arrived.take most) } := Handler.react_read hbytes
    have hended := congrArg Reaction.ended hreact
    rw [World.react_of_going hn (Server.react_plain hs.attached hended) hended, hreact]
    rfl

/-- A connection of the server goes on with another handler, and the line of no other connection
changes. -/
theorem Served.line_setHandler (hs : Served calls w h i dialed number address up down handler)
    (n : Network) (handler' : Handler) :
    (∀ other remote, other ≠ number →
      line n { h with hub := h.hub.setHandler number handler' } other remote =
        line n h other remote) ∧
    line n { h with hub := h.hub.setHandler number handler' } number address =
      { line n h number address with
        attached := some ⟨number, 2 * number + 1, handler'⟩ } := by
  constructor
  · intro other remote hother
    rw [Exchange.line_setHandler, if_neg (Ne.symm hother)]
    rfl
  · rw [Exchange.line_setHandler, if_pos rfl, hs.attached]
    rfl

/-- **The server reads.** -/
theorem Holds.act_server_read (hh : Holds calls w h made)
    (hact : w.act (.read 0 id most) = some w') : Proceeds calls w w' := by
  obtain ⟨config, own, hn⟩ := hh.hall
  obtain ⟨selected, hselecting, -⟩ := Option.bind_eq_some_iff.1 hact
  obtain ⟨i, dialed, address, up, down, handler, hs, hundelivered⟩ :=
    hh.served_of_selecting hn hselecting
  rw [hs.act_read hn hundelivered] at hact
  split at hact
  · simp at hact
  · next hbytes =>
    obtain rfl := Option.some.inj hact
    have hsound := (hh.call hs.call).sound
    have hh' := hh.change_server
      (w.network.modifySocket (2 * id + 1) fun s => { s with arrived := s.arrived.drop most })
      { h with hub := h.hub.setHandler id (handler.receive w.now (up.arrived.take most)) }
      (up.read most) down hs.call hn (fun _ => rfl)
      ((hh.orderly.modifySocket _ _).setHandler _ _) ?_
      ⟨hsound.1.read hundelivered most, hsound.2⟩
      (fun r received hd => ⟨hd.pool, hd.attends, hd.queued, hd.received, hd.delivering, hd.room⟩)
      ?_ w.notices
    · exact hh'.proceeds_flows hs.call rfl rfl rfl
        (Nat.add_lt_add_right (Flow.effort_read_lt hundelivered hbytes) _)
    · intro other remote hne _
      rw [(hs.line_setHandler _ _).1 other remote hne, line_modifySocket_of_ne (.inr rfl) hne]
    · rw [(hs.line_setHandler _ _).2, line_modifySocket_far]
      refine ⟨hs.fits.near, ?_, ?_, hs.fits.queued, hs.fits.received⟩
      · rw [hs.fits.far]
        rfl
      · exact .taken hs.enrolment hs.current rfl (hs.handles.receive _ _)

/-- **The server hands a message over.** -/
theorem Holds.act_server_dispatch (hh : Holds calls w h made)
    (hact : w.act (.dispatch 0 id) = some w') : Proceeds calls w w' := by
  obtain ⟨config, own, hn⟩ := hh.hall
  rw [World.act_dispatch_eq hn, Server.dispatch_plain, Option.map_map] at hact
  obtain ⟨_, hdispatch, rfl⟩ := Option.map_eq_some_iff.1 hact
  obtain ⟨a, message, rest, ha, hundelivered, -, -, rfl⟩ := Hub.dispatch_eq_some_iff.1 hdispatch
  obtain ⟨i, dialed, address, up, down, handler, hs, rfl⟩ := hh.served ha
  have hundelivered : up.undelivered = message :: rest :=
    hs.handles.undelivered.symm.trans hundelivered
  have hsound := (hh.call hs.call).sound
  obtain rfl : message.remote = address := by
    refine hsound.1.remote_eq ?_
    rw [Flow.messages, hundelivered]
    simp
  have hlink := links_of_connected hs.call rfl
  -- first the handler goes on, then the message goes to the queue
  let h₁ : Hall := { h with hub := h.hub.setHandler id { handler with undelivered := rest } }
  have hh' := hh.change_server w.network { h₁ with hub := { h₁.hub with queue :=
      { h₁.hub.queue with queue := h₁.hub.queue.queue ++ [message] } } }
    (up.dispatch message rest) down hs.call hn (fun _ => rfl) ?_ ?_
    ⟨hsound.1.dispatch hundelivered, hsound.2⟩
    (fun r received hd => ⟨hd.pool, hd.attends, hd.queued, hd.received, hd.delivering, hd.room⟩)
    ?_ w.notices
  · exact hh'.proceeds_flows hs.call rfl rfl rfl
      (Nat.add_lt_add_right (Flow.effort_dispatch_lt hundelivered) _)
  · refine (hh.orderly.setHandler id { handler with undelivered := rest }).setHall rfl rfl
      (fun _ hi => hi) rfl rfl fun m hm => ?_
    rcases List.mem_append.1 hm with hm | hm
    · rcases List.mem_append.1 hm with hm | hm
      · exact .inl (List.mem_append_left _ hm)
      · rw [List.mem_singleton.1 hm]
        exact .inr ⟨i, id, hlink⟩
    · exact .inl (List.mem_append_right _ hm)
  · intro other remote hne hremote
    rw [line_enqueue, if_neg (Ne.symm hremote), List.append_nil]
    exact (hs.line_setHandler _ _).1 other remote hne
  · rw [line_enqueue, if_pos rfl, (hs.line_setHandler _ _).2]
    refine ⟨hs.fits.near, hs.fits.far, ?_, congrArg (· ++ [message]) hs.fits.queued,
      hs.fits.received⟩
    exact .taken hs.enrolment hs.current rfl ⟨hs.handles.framer, rfl⟩

/-- A message that waits for the server's sink is the first one of its connection. -/
theorem Holds.queued_cons (hh : Holds calls w h made) {message : Message} {rest : List Message}
    (hqueue : h.hub.queue.queue = message :: rest) :
    ∃ (i : Nat) (dialed : Endpoint) (number : Nat) (up down : Flow),
      calls[i]? = some ⟨dialed, .connected number message.remote up down⟩ ∧
      up.queued = message :: rest.filter (·.remote = message.remote) := by
  obtain ⟨i, number, hlink⟩ := hh.orderly.messages message (by rw [hqueue]; simp)
  obtain ⟨⟨dialed, stage⟩, up, down, hi, rfl⟩ := exists_connected hlink
  refine ⟨i, dialed, number, up, down, hi, ?_⟩
  rw [← ((hh.call hi).fits rfl).queued, line, hqueue, List.filter_cons, if_pos (by simp)]

/-- **The server's sink takes a message.** -/
theorem Holds.act_server_deliver (hh : Holds calls w h made)
    (hact : w.act (.deliver 0) = some w') : Proceeds calls w w' := by
  obtain ⟨config, own, hn⟩ := hh.hall
  cases hqueue : h.hub.queue.queue with
  | nil =>
      simp [World.act_deliver_of_none hn (Server.deliver_plain_of_nil hqueue)] at hact
  | cons message rest =>
      obtain ⟨i, dialed, number, up, down, hi, hqueued⟩ := hh.queued_cons hqueue
      rw [World.act_deliver_of_taken hn (Server.deliver_plain hqueue)] at hact
      obtain rfl := Option.some.inj hact
      have hsound := (hh.call hi).sound
      have hfits := (hh.call hi).fits rfl
      have hdeliver : h.hub.queue.deliver (fun _ => none) = _ :=
        SinkQueue.deliver_of_taken hqueue rfl
      have hh' := hh.change_server w.network { h with
          hub := { h.hub with queue := h.hub.queue.deliver fun _ => none }
          received := message :: h.received }
        (up.deliver message (rest.filter (·.remote = message.remote))) down hi hn (fun _ => rfl)
        ?_ ?_ ⟨hsound.1.deliver hqueued, hsound.2⟩
        (fun r received hd => ⟨hd.pool, hd.attends, hd.queued, hd.received, hd.delivering, hd.room⟩)
        ?_ w.notices
      · exact hh'.proceeds_flows hi rfl rfl rfl
          (Nat.add_lt_add_right (Flow.effort_deliver_lt hqueued) _)
      · refine hh.orderly.setHall rfl rfl (fun _ hi => hi) ?_ ?_ fun m hm => .inl ?_
        · rw [hdeliver]
        · rw [hdeliver]
        · rw [hdeliver] at hm
          rw [hqueue]
          simpa [or_left_comm] using hm
      · intro other remote _ hremote
        rw [line_deliver hqueue, if_neg (Ne.symm hremote), List.append_nil, line, hqueue,
          List.filter_cons, if_neg (by simpa using Ne.symm hremote)]
      · rw [line_deliver hqueue, if_pos rfl]
        exact ⟨hfits.near, hfits.far, hfits.seated.congr rfl rfl rfl rfl rfl rfl, rfl,
          congrArg (· ++ [message]) hfits.received⟩

/-- The server writes to a client. -/
theorem Served.act_write (hs : Served calls w h i dialed number address up down handler)
    (hn : w.node? 0 = some ⟨.server (.plain config own h.registry h.hub), h.received⟩)
    (hundelivered : up.undelivered = []) :
    w.act (.write 0 number) = match down.waiting with
      | [] => none
      | payload :: rest => some (w.set 0 ⟨.server (.plain config own
          (h.registry.modify number fun e => { e with queue := rest })
          (h.hub.setHandler number { handler with timer := handler.timer.touch w.now })),
          h.received⟩
        (w.network.modifySocket (2 * number) fun s => { s with arrived := s.arrived ++ payload })
        w.notices) := by
  have hselecting := hs.selecting?_eq hn hundelivered
  have henrolment := hs.enrolment
  cases hwaiting : down.waiting with
  | nil =>
      rw [hwaiting] at henrolment
      refine World.act_write_of_empty hselecting ?_
      change (h.registry.receive number).1 = .empty
      simp [Registry.receive, Registry.isCurrent, henrolment, hs.current]
  | cons payload rest =>
      rw [hwaiting] at henrolment
      have hreceive : h.registry.receive number =
          (.payload payload, h.registry.modify number fun e => { e with queue := rest }) := by
        rw [Registry.receive, henrolment]
      have hwrite := Network.write_of_open hs.fits.far rfl rfl hs.fits.near rfl payload
      have hreact := Handler.react_written handler w.now payload
      rw [World.act_write_of_selecting hselecting (congrArg Prod.fst hreceive) hwrite]
      have hended := congrArg Reaction.ended hreact
      have htake : (Machine.server (.plain config own h.registry h.hub)).takePayload number =
          .server (.plain config own (h.registry.receive number).2 h.hub) := rfl
      rw [htake, hreceive, World.react_of_going hn (Server.react_plain hs.attached hended) hended,
        hreact]
      rfl

/-- **The server writes.** -/
theorem Holds.act_server_write (hh : Holds calls w h made)
    (hact : w.act (.write 0 id) = some w') : Proceeds calls w w' := by
  obtain ⟨config, own, hn⟩ := hh.hall
  obtain ⟨selected, hselecting, -⟩ := Option.bind_eq_some_iff.1 hact
  obtain ⟨i, dialed, address, up, down, handler, hs, hundelivered⟩ :=
    hh.served_of_selecting hn hselecting
  rw [hs.act_write hn hundelivered] at hact
  split at hact
  · simp at hact
  · next payload rest hwaiting =>
    obtain rfl := Option.some.inj hact
    have hsound := (hh.call hs.call).sound
    -- first the handler goes on, then the payload leaves the queue
    let h₁ : Hall := { h with
      hub := h.hub.setHandler id { handler with timer := handler.timer.touch w.now } }
    have hh' := hh.change_server
      (w.network.modifySocket (2 * id) fun s => { s with arrived := s.arrived ++ payload })
      { h₁ with registry := h₁.registry.modify id fun e => { e with queue := rest } }
      up (down.write payload rest) hs.call hn (fun _ => rfl)
      (((hh.orderly.modifySocket _ _).setHandler _ _).setHall (Registry.nextId_modify ..) rfl
        (fun _ hi => hi) rfl rfl fun _ hm => .inl hm) ?_
      ⟨hsound.1, hsound.2.1.write hwaiting, hsound.2.2⟩
      (fun r received hd => ⟨hd.pool, ?_, hd.queued, hd.received, hd.delivering, hd.room⟩)
      ?_ w.notices
    · exact hh'.proceeds_flows hs.call rfl rfl rfl
        (Nat.add_lt_add_left (Flow.effort_write_lt hwaiting) _)
    · intro other remote hne _
      rw [line_modify, if_neg (Ne.symm hne)]
      refine Eq.trans ((hs.line_setHandler _ _).1 other remote hne) ?_
      exact line_modifySocket_of_ne (.inl rfl) hne _
    · obtain ⟨handler', hhandles, hattached⟩ := hd.attends
      exact ⟨handler', ⟨hhandles.framer, hhandles.undelivered⟩, hattached⟩
    · rw [line_modify, if_pos rfl, (hs.line_setHandler _ _).2, line_modifySocket_near]
      refine ⟨?_, hs.fits.far, ?_, hs.fits.queued, hs.fits.received⟩
      · rw [hs.fits.near]
        rfl
      · refine .taken ?_ hs.current rfl ⟨hs.handles.framer, hs.handles.undelivered⟩
        change (h.registry.enrolment? id).map _ = _
        rw [hs.enrolment]
        rfl

/-- The connection that waits longest is the one that no enrolment has. -/
theorem Holds.pending (hh : Holds calls w h made) (hlt : h.registry.nextId < made) :
    ∃ (i : Nat) (dialed address : Endpoint) (up down : Flow),
      calls[i]? = some ⟨dialed, .connected h.registry.nextId address up down⟩ ∧
      h.hub.attached? h.registry.nextId = none ∧ down.waiting = [] ∧
      up.framer = Framer.new address ∧ up.undelivered = [] := by
  obtain ⟨i, address, hlink⟩ := hh.orderly.owner hlt
  obtain ⟨⟨dialed, stage⟩, up, down, hi, rfl⟩ := exists_connected hlink
  refine ⟨i, dialed, address, up, down, hi, ?_⟩
  cases ((hh.call hi).fits rfl).seated with
  | pending _ hattached hwaiting hframer hundelivered =>
      exact ⟨hattached, hwaiting, hframer, hundelivered⟩
  | taken henrolment =>
      have : h.registry.enrolment? h.registry.nextId = none :=
        List.getElem?_eq_none (Nat.le_refl _)
      rw [show (line w.network h h.registry.nextId address).enrolment = none from this] at henrolment
      simp at henrolment

/-- **The server takes a connection in.** -/
theorem Holds.act_server_accept (hh : Holds calls w h made)
    (hact : w.act (.accept 0) = some w') : Proceeds calls w w' := by
  obtain ⟨config, own, hn⟩ := hh.hall
  cases hbacklog : w.network.backlog 0 with
  | nil =>
      have hnone : w.network.accept 0 = none := by
        cases haccept : w.network.accept 0 with
        | none => rfl
        | some result =>
            obtain ⟨rest, hrest, -⟩ := Network.accept_eq_some_iff.1 haccept
            simp [hbacklog] at hrest
      simp only [World.act, hn, Option.bind_eq_bind, Option.bind_some] at hact
      change (w.network.accept 0).bind _ = _ at hact
      simp [hnone] at hact
  | cons socket rest =>
      obtain ⟨hlt, rfl, -⟩ := hh.orderly.backlog_cons hbacklog
      -- connections are taken in by number: this one belongs to a client that is still pending
      obtain ⟨i, dialed, address, up, down, hi, hattached, hwaiting, hframer, hundelivered⟩ :=
        hh.pending hlt
      have hfits := (hh.call hi).fits rfl
      have haccept := Network.accept_eq_some_iff.2 ⟨rest, hbacklog, rfl⟩
      obtain ⟨notices, heq⟩ := World.act_accept_plain hn haccept hfits.far
      obtain rfl := Option.some.inj (heq.symm.trans hact)
      have hlink := links_of_connected hi rfl
      have hlines : ∀ n other remote, line n { h with
          registry := (h.registry.enrol address).2
          hub := h.hub.attach h.registry.nextId (2 * h.registry.nextId + 1)
            (.new address config.idleTimeout w.now) } other remote =
          { line n h other remote with
            enrolment := if other = h.registry.nextId then some { remote := address }
              else h.registry.enrolment? other
            current := if remote = address then some h.registry.nextId
              else h.registry.current.get? remote
            attached := (h.hub.attached? other).or
              (if h.registry.nextId = other then
                some ⟨h.registry.nextId, 2 * h.registry.nextId + 1,
                  .new address config.idleTimeout w.now⟩ else none) } := by
        intro n other remote
        rw [line, Registry.enrolment?_enrol, Hub.attached?_attach]
        change Line.mk _ _ _ ((h.registry.current.insert address _).get? remote) _ _ _ = _
        rw [Directory.get?_insert]
        rfl
      have hh' := hh.change_server _ _ up down hi hn (fun _ => ?_)
        (hh.orderly.accept hbacklog hlink (.new address config.idleTimeout w.now)) ?_
        (hh.call hi).sound (fun _ _ hd => hd) ?_ notices
      · rw [set_eq_self hi] at hh'
        refine ⟨calls, _, made, hh', .refl calls, ?_⟩
        have hrest := Network.backlog_accept hbacklog
        rw [effort, effort, hbacklog]
        change _ + (Network.backlog (w.network.modifyListener 0 _) 0).length < _
        rw [hrest, List.length_cons]
        omega
      · exact Network.listenerAt?_modifyListener w.network 0
          (f := fun l => { l with backlog := rest }) (fun _ => rfl) _
      · intro other remote hother hremote
        rw [hlines, if_neg hother, if_neg hremote, if_neg (Ne.symm hother), Option.or_none]
        rfl
      · rw [hlines, if_pos rfl, if_pos rfl, if_pos rfl, hattached]
        refine ⟨hfits.near, hfits.far, ?_, hfits.queued, hfits.received⟩
        refine .taken ?_ rfl rfl ⟨hframer.symm, hundelivered.symm⟩
        rw [hwaiting]

end Server

end Exchange

end Framewire
