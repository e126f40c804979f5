/-
**What an operation leaves of sockets and of attached connections.**

A network holds the sockets of all connections, and a hub all connections of a connector.  What an
operation on one connection does is said here by what can be looked up after it: the socket, or the
attached connection, of every number.  For the numbers of other connections that is what could be
looked up before.  The numbers of a server's connections are those of its enrolments, which only an
enrolment adds to.

Main definitions:

* `Network.backlog` — the connections of a listener that nobody has taken.

Main results:

* `Network.socket?_modifySocket`, `Network.socket?_connect`, `Network.socket?_finish`,
  `Network.socket?_close` — the sockets after an operation;
* `Network.read_of_arrived`, `Network.read_of_empty`, `Network.of_read_bytes`,
  `Network.write_of_open` — reading and writing;
* `Network.listen_eq_ok`, `Network.accept_eq_some_iff` — listening, and taking a connection;
* `Hub.attached?_attach`, `Hub.attached?_setHandler`, `Hub.attached?_detach` — the connections after
  an operation;
* `Hub.dispatch_eq_some_iff` — handing a message to the queue;
* `Registry.nextId_enrol`, `Registry.nextId_send`, `Registry.nextId_withdraw` — the number of the
  next enrolment after an operation;
* `Server.acquire_of_empty`, `Program.startConnector_server` — what a server begins with.
-/

import Framewire.CommandLine.Run

set_option autoImplicit false

namespace Framewire

namespace Network

variable {n n' : Network} {id i listener most socket : Nat} {s t : Socket}

/-! ### Sockets -/

theorem socket?_modifySocket (n : Network) (id i : Nat) (f : Socket → Socket) :
    (n.modifySocket id f).socket? i = if id = i then (n.socket? i).map f else n.socket? i := by
  rw [socket?, modifySocket, List.getElem?_modify, socket?]
  by_cases h : id = i
  · simp [h]
  · simp [h]

@[simp] theorem length_modifySocket (n : Network) (id : Nat) (f : Socket → Socket) :
    (n.modifySocket id f).sockets.length = n.sockets.length :=
  List.length_modify ..

/-- What has arrived is read from the front. -/
theorem read_of_arrived (hs : n.socket? id = some s) (harrived : s.arrived ≠ []) (most : Nat) :
    n.read id most = (.bytes (s.arrived.take most),
      n.modifySocket id fun s => { s with arrived := s.arrived.drop most }) := by
  rw [read, hs]
  dsimp only
  cases h : s.arrived with
  | nil => exact absurd h harrived
  | cons byte rest => rfl

/-- Behind everything that has arrived, a reader finds how the direction ended. -/
theorem read_of_empty (hs : n.socket? id = some s) (harrived : s.arrived = []) (most : Nat) :
    n.read id most = (match s.ending with
      | none => .nothing
      | some .finished => .ended
      | some .aborted => .failed .connectionReset, n) := by
  rw [read, hs]
  dsimp only
  rw [harrived]
  rcases s.ending with _ | _ | _ <;> rfl

/-- Bytes that were read stood at the front of what had arrived. -/
theorem of_read_bytes (hs : n.socket? id = some s) {bytes : Bytes}
    (hread : n.read id most = (.bytes bytes, n')) :
    bytes = s.arrived.take most ∧
      n' = n.modifySocket id fun s => { s with arrived := s.arrived.drop most } := by
  by_cases harrived : s.arrived = []
  · rw [read_of_empty hs harrived, Prod.mk.injEq] at hread
    obtain ⟨hread, -⟩ := hread
    split at hread <;> simp at hread
  · rw [read_of_arrived hs harrived, Prod.mk.injEq] at hread
    obtain ⟨hread, rfl⟩ := hread
    exact ⟨(Reading.bytes.inj hread).symm, rfl⟩

/-- What is written between two open sockets arrives at the other one. -/
theorem write_of_open (hs : n.socket? id = some s) (hopen : s.isOpen = true)
    (hwritable : s.writable = true) (ht : n.socket? s.twin = some t) (htwin : t.isOpen = true)
    (bytes : Bytes) :
    n.write id bytes =
      (.complete, n.modifySocket s.twin fun t => { t with arrived := t.arrived ++ bytes }) := by
  rw [write, hs]
  simp [hopen, hwritable, ht, htwin]

/-- Nothing more is written into a socket: the other one finds the end, unless it has found one
before. -/
theorem socket?_finish (hs : n.socket? id = some s) (htwin : s.twin ≠ id) (i : Nat) :
    (n.finish id).socket? i =
      if i = id then some { s with writable := false }
      else if s.writable = true ∧ i = s.twin then
        (n.socket? i).map fun t => { t with ending := some (t.ending.getD .finished) }
      else n.socket? i := by
  rw [finish, hs]
  dsimp only
  split
  · next hwritable =>
    rw [endIncoming, socket?_modifySocket, socket?_modifySocket]
    by_cases hid : i = id
    · subst hid
      rw [if_neg htwin, if_pos rfl, if_pos rfl, hs]
      rfl
    · rw [if_neg (Ne.symm hid), if_neg hid]
      simp only [hwritable, true_and, eq_comm]
  · next hwritable =>
    by_cases hid : i = id
    · subst hid
      rw [if_pos rfl, hs, ← Bool.eq_false_iff.2 hwritable]
    · rw [if_neg hid, if_neg fun h => hwritable h.1]

/-- An open socket of which everything was read is closed as if nothing more was written into it. -/
theorem socket?_close_of_read (hs : n.socket? id = some s) (hopen : s.isOpen = true)
    (harrived : s.arrived = []) (htwin : s.twin ≠ id) (i : Nat) :
    (n.close id).socket? i =
      if i = id then some { s with writable := false, isOpen := false }
      else (n.finish id).socket? i := by
  rw [close, hs]
  simp only [hopen, harrived, List.isEmpty_nil, if_true, Bool.true_eq_false, if_false,
    socket?_modifySocket]
  by_cases hid : i = id
  · subst hid
    rw [if_pos rfl, if_pos rfl, socket?_finish hs htwin, if_pos rfl, Option.map_some, harrived]
  · rw [if_neg (Ne.symm hid), if_neg hid]

/-- A socket of which everything was read is closed: the other one finds the end. -/
theorem socket?_close (hs : n.socket? id = some s) (hopen : s.isOpen = true)
    (hwritable : s.writable = true) (harrived : s.arrived = []) (htwin : s.twin ≠ id) (i : Nat) :
    (n.close id).socket? i =
      if i = id then some { s with writable := false, isOpen := false }
      else if i = s.twin then
        (n.socket? i).map fun t => { t with ending := some (t.ending.getD .finished) }
      else n.socket? i := by
  rw [socket?_close_of_read hs hopen harrived htwin, socket?_finish hs htwin]
  by_cases hid : i = id <;> simp [hid, hwritable]

/-- Finishing with a socket changes sockets, one after the other. -/
theorem finish_induction {P : Network → Prop} (h : P n)
    (hmodify : ∀ n id f, P n → P (n.modifySocket id f)) (id : Nat) : P (n.finish id) := by
  rw [finish]
  split
  · exact h
  · split
    · exact hmodify _ _ _ (hmodify _ _ _ h)
    · exact h

/-- Closing a socket changes sockets, one after the other. -/
theorem close_induction {P : Network → Prop} (h : P n)
    (hmodify : ∀ n id f, P n → P (n.modifySocket id f)) (id : Nat) : P (n.close id) := by
  rw [close]
  split
  · exact h
  · next s _ =>
    split
    · exact h
    · split
      · exact hmodify _ _ _ (finish_induction h hmodify _)
      · rw [abort]
        split
        · exact h
        · exact hmodify _ _ _ (hmodify _ _ _ h)

theorem listener?_finish (n : Network) (id listener : Nat) :
    (n.finish id).listener? listener = n.listener? listener :=
  finish_induction (P := fun m => m.listener? listener = n.listener? listener) rfl
    (fun _ _ _ h => h) id

@[simp] theorem length_close (n : Network) (id : Nat) :
    (n.close id).sockets.length = n.sockets.length :=
  close_induction (P := fun m => m.sockets.length = n.sockets.length) rfl
    (fun m i f h => (length_modifySocket m i f).trans h) id

theorem listener?_close (n : Network) (id listener : Nat) :
    (n.close id).listener? listener = n.listener? listener :=
  close_induction (P := fun m => m.listener? listener = n.listener? listener) rfl
    (fun _ _ _ h => h) id

/-! ### Listeners -/

/-- The connections of a listener that nobody has taken, the oldest one first. -/
def backlog (n : Network) (listener : Nat) : List Nat :=
  ((n.listener? listener).map (·.backlog)).getD []

theorem listener?_modifyListener (n : Network) (listener : Nat) (f : Listener → Listener) :
    (n.modifyListener listener f).listener? listener = (n.listener? listener).map f := by
  rw [listener?, modifyListener, List.getElem?_modify, listener?]
  simp

/-- Which listener a dial reaches does not depend on the connections that wait. -/
theorem listenerAt?_modifyListener (n : Network) (listener : Nat) {f : Listener → Listener}
    (hf : ∀ l, ((f l).address, (f l).isOpen) = (l.address, l.isOpen)) (address : Endpoint) :
    (n.modifyListener listener f).listenerAt? address = n.listenerAt? address := by
  have hlisteners : ((n.modifyListener listener f).listeners.map fun l => (l.address, l.isOpen)) =
      n.listeners.map fun l => (l.address, l.isOpen) := by
    refine List.ext_getElem? fun i => ?_
    rw [modifyListener, List.getElem?_map, List.getElem?_modify, List.getElem?_map]
    by_cases hi : listener = i
    · simp [hi, Function.comp_def, hf]
    · simp [hi]
  have hfind : ∀ n : Network, n.listenerAt? address =
      (n.listeners.map fun l => (l.address, l.isOpen)).findIdx? fun l =>
        l.2 ∧ l.1.port = address.port ∧ l.1.ip.covers (dialedIp address.ip) := by
    intro n
    rw [listenerAt?, List.findIdx?_map]
    rfl
  rw [hfind, hfind, hlisteners]

/-- Listening adds a listener at which nothing has arrived. -/
theorem listen_eq_ok {address : Endpoint} (h : n.listen address = .ok (listener, n')) :
    listener = n.listeners.length ∧ ∃ bound given,
      n' = { n with listeners := n.listeners ++ [{ address := bound }], given } := by
  rw [listen] at h
  split at h
  · simp at h
  · split at h
    · obtain ⟨rfl, rfl⟩ := Prod.mk.inj (Except.ok.inj h)
      exact ⟨rfl, _, _, rfl⟩
    · split at h
      · simp at h
      · obtain ⟨rfl, rfl⟩ := Prod.mk.inj (Except.ok.inj h)
        exact ⟨rfl, _, _, rfl⟩

/-- The oldest connection is taken. -/
theorem accept_eq_some_iff :
    n.accept listener = some (socket, n') ↔
      ∃ rest, n.backlog listener = socket :: rest ∧
        n' = n.modifyListener listener fun l => { l with backlog := rest } := by
  rw [accept, backlog]
  cases n.listener? listener with
  | none => simp
  | some l =>
      obtain ⟨address, backlog, isOpen⟩ := l
      cases backlog with
      | nil => simp
      | cons first rest =>
          simp only [Option.map_some, Option.getD_some, Option.some.injEq, Prod.mk.injEq,
            List.cons.injEq]
          constructor
          · rintro ⟨rfl, rfl⟩
            exact ⟨rest, ⟨rfl, rfl⟩, rfl⟩
          · rintro ⟨_, ⟨rfl, rfl⟩, rfl⟩
            exact ⟨rfl, rfl⟩

theorem backlog_accept {rest : List Nat} (h : n.backlog listener = socket :: rest) :
    (n.modifyListener listener fun l => { l with backlog := rest }).backlog listener = rest := by
  rw [backlog] at h
  rw [backlog, listener?_modifyListener]
  cases hl : n.listener? listener with
  | none => simp [hl] at h
  | some l => rfl

/-- A new connection has two new sockets. -/
theorem socket?_connect (n : Network) (listener : Nat) (here there : Endpoint) (i : Nat) :
    (n.connect listener here there).2.socket? i =
      if i = n.sockets.length then some { here, there, twin := n.sockets.length + 1 }
      else if i = n.sockets.length + 1 then
        some { here := there, there := here, twin := n.sockets.length }
      else n.socket? i := by
  change (n.sockets ++ [_, _])[i]? = _
  rcases Nat.lt_trichotomy i n.sockets.length with h | rfl | h
  · rw [List.getElem?_append_left h, if_neg (Nat.ne_of_lt h), if_neg (by omega), socket?]
  · simp
  · rw [List.getElem?_append_right (Nat.le_of_lt h), if_neg (Nat.ne_of_gt h)]
    by_cases hi : i = n.sockets.length + 1
    · simp [hi]
    · obtain ⟨d, rfl⟩ : ∃ d, i = n.sockets.length + (d + 2) :=
        ⟨i - n.sockets.length - 2, by omega⟩
      rw [if_neg hi, socket?, Nat.add_sub_cancel_left,
        List.getElem?_eq_none (Nat.le_add_right _ _)]
      rfl

theorem length_connect (n : Network) (listener : Nat) (here there : Endpoint) :
    (n.connect listener here there).2.sockets.length = n.sockets.length + 2 :=
  List.length_append

/-- A new connection waits behind the others. -/
theorem backlog_connect (h : (n.listener? listener).isSome = true) (here there : Endpoint) :
    (n.connect listener here there).2.backlog listener =
      n.backlog listener ++ [n.sockets.length + 1] := by
  obtain ⟨l, hl⟩ := Option.isSome_iff_exists.1 h
  rw [backlog, connect]
  dsimp only
  rw [listener?_modifyListener]
  change Option.getD (Option.map _ (Option.map _ (n.listener? listener))) [] = _
  simp only [backlog, hl, Option.map_some, Option.getD_some]

end Network

theorem SinkQueue.dispatch_eq_accepted_iff {q q' : SinkQueue} {message : Message} :
    q.dispatch message = .accepted q' ↔
      q.ended = false ∧ q.isFull = false ∧ q' = { q with queue := q.queue ++ [message] } := by
  rw [dispatch]
  cases q.ended with
  | true => simp
  | false =>
      cases q.isFull with
      | true => simp
      | false => simp [eq_comm]

namespace Hub

variable {h h' : Hub} {id i socket : Nat} {a : Attached} {handler : Handler}

/-! ### Attached connections -/

theorem id_of_attached? (ha : h.attached? id = some a) : a.id = id := by
  simpa using List.find?_some ha

theorem attached?_attach (h : Hub) (id socket : Nat) (handler : Handler) (i : Nat) :
    (h.attach id socket handler).attached? i =
      (h.attached? i).or (if id = i then some ⟨id, socket, handler⟩ else none) := by
  rw [attached?, attach, List.find?_append, attached?]
  by_cases hi : id = i
  · simp [hi]
  · simp [hi]

theorem attached?_setHandler (h : Hub) (id : Nat) (handler : Handler) (i : Nat) :
    (h.setHandler id handler).attached? i =
      if id = i then (h.attached? i).map fun a => { a with handler } else h.attached? i := by
  have hid : ∀ a : Attached, (if a.id = id then { a with handler } else a).id = a.id := by
    intro a
    split <;> rfl
  rw [attached?, setHandler, List.find?_map, attached?]
  have hkey : (fun a : Attached => decide (a.id = i)) ∘
      (fun a => if a.id = id then { a with handler } else a) = fun a => decide (a.id = i) := by
    funext a
    simp only [Function.comp_apply, hid]
  rw [hkey]
  cases hfind : h.attached.find? fun a => decide (a.id = i) with
  | none => simp
  | some a =>
      have ha : a.id = i := id_of_attached? hfind
      by_cases hi : id = i
      · simp [ha, hi]
      · simp [ha, hi, Ne.symm hi]

theorem attached?_detach (h : Hub) (id i : Nat) :
    (h.detach id).attached? i = if id = i then none else h.attached? i := by
  rw [attached?, detach, List.find?_filter, attached?]
  by_cases hi : id = i
  · rw [if_pos hi, List.find?_eq_none]
    intro a _
    simp [hi]
  · rw [if_neg hi]
    congr 1
    funext a
    by_cases ha : a.id = i
    · simp [ha, Ne.symm hi]
    · simp [ha]

theorem selecting?_eq_some_iff :
    h.selecting? id = some a ↔ h.attached? id = some a ∧ a.handler.undelivered = [] := by
  rw [selecting?, Option.filter_eq_some_iff, List.isEmpty_iff]

/-- The next undelivered message of a handler goes to the end of the queue, if the queue has room
and somebody empties it. -/
theorem dispatch_eq_some_iff :
    h.dispatch id = some h' ↔
      ∃ a message rest, h.attached? id = some a ∧ a.handler.undelivered = message :: rest ∧
        h.queue.ended = false ∧ h.queue.isFull = false ∧
        h' = { h.setHandler id { a.handler with undelivered := rest } with
          queue := { h.queue with queue := h.queue.queue ++ [message] } } := by
  rw [dispatch]
  constructor
  · intro hdispatch
    obtain ⟨a, ha, hdispatch⟩ := Option.bind_eq_some_iff.1 hdispatch
    split at hdispatch
    · simp at hdispatch
    · next message rest hundelivered =>
      split at hdispatch
      · next queue hqueue =>
        obtain ⟨hended, hfull, rfl⟩ := SinkQueue.dispatch_eq_accepted_iff.1 hqueue
        exact ⟨a, message, rest, ha, hundelivered, hended, hfull, (Option.some.inj hdispatch).symm⟩
      · simp at hdispatch
  · rintro ⟨a, message, rest, ha, hundelivered, hended, hfull, rfl⟩
    have hqueue : h.queue.dispatch message = .accepted _ :=
      SinkQueue.dispatch_eq_accepted_iff.2 ⟨hended, hfull, rfl⟩
    simp only [ha, Option.bind_eq_bind, Option.bind_some, hundelivered, hqueue]

/-- A handler that cannot hand over to an empty queue has nothing to hand over. -/
theorem undelivered_eq_nil (ha : h.attached? id = some a) (hended : h.queue.ended = false)
    (hroom : 0 < h.queue.capacity) (hqueue : h.queue.queue = []) (hnone : h.dispatch id = none) :
    a.handler.undelivered = [] := by
  have hfull : h.queue.isFull = false := by
    simp [SinkQueue.isFull, hqueue, Nat.ne_of_gt hroom]
  cases hundelivered : a.handler.undelivered with
  | nil => rfl
  | cons message rest =>
      have hdispatch := dispatch_eq_some_iff.2
        ⟨a, message, rest, ha, hundelivered, hended, hfull, rfl⟩
      rw [hnone] at hdispatch
      cases hdispatch

end Hub

/-! ### Enrolments -/

namespace Registry

variable (r : Registry) (id : Nat) (message : Message)

@[simp] theorem nextId_modify (f : Enrolment → Enrolment) : (r.modify id f).nextId = r.nextId :=
  List.length_modify ..

@[simp] theorem nextId_enrol (remote : Endpoint) : (r.enrol remote).2.nextId = r.nextId + 1 :=
  List.length_append

@[simp] theorem nextId_send : (r.send message).2.nextId = r.nextId := by
  rw [send]
  split
  · split
    · exact nextId_modify ..
    · rfl
  · rfl

@[simp] theorem nextId_receive : (r.receive id).2.nextId = r.nextId := by
  rw [receive]
  split
  · split
    · exact nextId_modify ..
    · rfl
  · rfl

@[simp] theorem nextId_withdraw : (r.withdraw id).2.nextId = r.nextId := by
  rw [withdraw]
  split
  · split <;> rfl
  · rfl

@[simp] theorem nextId_hangUp : (r.hangUp id).nextId = r.nextId := nextId_modify ..

end Registry

/-! ### The beginning -/

/-- A server that could be started on an empty network has a listener, and nothing has come to
it. -/
theorem Server.acquire_of_empty {config : ServerConfig} {host : Host} {notices : List Notice}
    {round : Server.Round} {network : Network}
    (h : Server.acquire config { host } = (notices, .ok (round, network))) :
    round.listener = 0 ∧ round.hub.attached = [] ∧ round.hub.queue.queue = [] ∧
      round.hub.queue.ended = false ∧ 0 < round.hub.queue.capacity ∧
      ∃ address given, network = { host, listeners := [{ address }], given } := by
  unfold Server.acquire at h
  split at h
  · simp at h
  · split at h
    · simp at h
    · next listener network' hlisten =>
      obtain ⟨-, h⟩ := Prod.mk.inj h
      obtain ⟨hlistener, hnetwork⟩ := Network.listen_eq_ok hlisten
      rw [SinkQueue.start] at h
      split at h
      · simp [Except.map] at h
      · next hcapacity =>
        obtain ⟨rfl, rfl⟩ := Prod.mk.inj (Except.ok.inj h)
        exact ⟨hlistener, rfl, rfl, rfl, Nat.pos_of_ne_zero hcapacity, hnetwork⟩

/-- A server that is started in an empty world has the only listener, and no connections. -/
theorem Program.startConnector_server {host : Host} {config : ServerConfig} {receiver : Receiver}
    {id : Nat} {w : World}
    (h : startConnector (World.new host) (.server (.new config)) receiver = .ok (id, w)) :
    id = 0 ∧ ∃ address hub listening given,
      w.network = { host, listeners := [{ address := listening }], given } ∧
      w.nodes = [⟨.server { config, life :=
        { sink := some receiver, running := some ⟨address, 0, hub⟩ } }, []⟩] ∧
      hub.attached = [] ∧ hub.queue.queue = [] ∧ hub.queue.ended = false ∧
      0 < hub.queue.capacity := by
  have hgiven : (Server.new config).setReceiver receiver =
      .ok { config, life := { sink := some receiver } } := rfl
  simp only [startConnector, World.new, World.add, World.setReceiver, hgiven, Except.map,
    World.called, World.setMachine, World.note, World.node?, World.start, Server.start,
    Lifecycle.startObstacle?, Lifecycle.isRunning] at h
  obtain ⟨notices, acquired, hacquire⟩ : ∃ notices acquired,
      Server.acquire config { host } = (notices, acquired) := ⟨_, _, rfl⟩
  cases acquired with
  | error fault => simp [hacquire, bind, Except.bind] at h
  | ok result =>
      obtain ⟨⟨address, listener, hub⟩, network⟩ := result
      obtain ⟨rfl, hattached, hqueue, hended, hcapacity, listening, given, rfl⟩ :=
        Server.acquire_of_empty hacquire
      simp [hacquire, bind, Except.bind, pure, Except.pure] at h
      obtain ⟨rfl, rfl⟩ := h
      exact ⟨rfl, address, hub, listening, given, rfl, rfl, hattached, hqueue, hended, hcapacity⟩

end Framewire
