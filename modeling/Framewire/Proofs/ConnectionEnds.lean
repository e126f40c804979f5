/-
**Connections end with the connector that has them.**

A connector that runs has connections, and each of them has a socket.  When the handler of a
connection ends, the socket is closed; when the connector stops, the sockets of all its connections
are closed, and so are the connections that a server has not taken from its listener.  A closed
socket is never opened again.  So nothing that a connector ever had is open once it has stopped.

What carries this is that connections of one connector have different numbers: a server numbers them
by its enrolments, and a client by its slots, each of which is connected as long as its connection
is there.

Main definitions:

* `Network.Closed`, `Network.Ages` — closed sockets, and what becomes of a network;
* `Pool.Connected` — the slots that have a connection;
* `Hub.keys`, `Machine.keys`, `World.keys` — the connections of a connector, with their sockets;
* `Hub.Sound`, `Server.Sound`, `Client.Round.Sound`, `World.Sound` — connections are in order;
* `World.Leads` — connections stay, or are closed.

Main results:

* `Network.ages_use` — closed sockets stay closed;
* `Pool.Connected.step` — a slot keeps its connection until it is told to end;
* `Machine.Moves.leads`, `World.Sound.leads_ask`, `World.Sound.leads_after` — **whatever happens,
  connections stay or are closed**;
* `World.Sound.closed_of_not_running`, `World.Sound.closed_waiting` — **a connector that does not
  run has left no connection open**.
-/

import Framewire.Proofs.ConnectionViews
import Framewire.Proofs.PoolChanges
import Framewire.Proofs.Usage

set_option autoImplicit false

namespace Framewire

/-! ### Networks -/

namespace Network

variable {n n' n'' : Network} {id listener socket : Nat}

/-- A socket is closed. -/
def Closed (n : Network) (id : Nat) : Prop := ∃ s, n.socket? id = some s ∧ s.isOpen = false

/-- The connections that listeners have are there. -/
def Sound (n : Network) : Prop :=
  ∀ listener, ∀ socket ∈ n.backlog listener, socket < n.sockets.length

/-- What becomes of a network: it stays on its host, its sockets stay, and those that are closed stay
closed. -/
structure Ages (n n' : Network) : Prop where
  host_eq : n'.host = n.host
  length_le : n.sockets.length ≤ n'.sockets.length
  closed : ∀ id, n.Closed id → n'.Closed id
  sound : n.Sound → n'.Sound

namespace Ages

theorem refl (n : Network) : n.Ages n := ⟨rfl, Nat.le_refl _, fun _ h => h, fun h => h⟩

theorem trans (h : n.Ages n') (h' : n'.Ages n'') : n.Ages n'' where
  host_eq := h'.host_eq.trans h.host_eq
  length_le := Nat.le_trans h.length_le h'.length_le
  closed id hid := h'.closed id (h.closed id hid)
  sound hn := h'.sound (h.sound hn)

/-- Sockets stay as they are, and listeners get no connections. -/
theorem of_sockets_eq (hhost : n'.host = n.host) (hsockets : n'.sockets = n.sockets)
    (hbacklog : ∀ listener, ∀ socket ∈ n'.backlog listener, socket ∈ n.backlog listener) :
    n.Ages n' where
  host_eq := hhost
  length_le := Nat.le_of_eq (congrArg List.length hsockets).symm
  closed id := by
    rintro ⟨s, hs, hopen⟩
    exact ⟨s, by rwa [socket?, hsockets], hopen⟩
  sound hn listener socket hsocket := by
    rw [hsockets]
    exact hn listener socket (hbacklog listener socket hsocket)

/-- What is true of every step is true of all of them. -/
theorem foldl {f : Network → Nat → Network} (hf : ∀ (n : Network) id, n.Ages (f n id)) (n : Network)
    (ids : List Nat) : n.Ages (ids.foldl f n) := by
  induction ids generalizing n with
  | nil => exact .refl n
  | cons id ids ih => exact (hf n id).trans (ih (f n id))

end Ages

/-! #### Sockets -/

/-- A socket changes, and is not opened. -/
theorem ages_modifySocket (n : Network) (id : Nat) {f : Socket → Socket}
    (hf : ∀ s, s.isOpen = false → (f s).isOpen = false) : n.Ages (n.modifySocket id f) where
  host_eq := rfl
  length_le := Nat.le_of_eq (length_modifySocket n id f).symm
  closed i := by
    rintro ⟨s, hs, hopen⟩
    rw [Closed, socket?_modifySocket, hs]
    split
    · exact ⟨f s, rfl, hf s hopen⟩
    · exact ⟨s, rfl, hopen⟩
  sound hn listener socket hsocket := by
    rw [length_modifySocket]
    exact hn listener socket hsocket

/-- A socket that is there is closed once it is made so. -/
theorem closed_modifySocket (hid : id < n.sockets.length) {f : Socket → Socket}
    (hf : ∀ s, (f s).isOpen = false) : (n.modifySocket id f).Closed id := by
  refine ⟨f n.sockets[id], ?_, hf _⟩
  rw [socket?_modifySocket, if_pos rfl, socket?, List.getElem?_eq_getElem hid, Option.map_some]

theorem ages_write (n : Network) (id : Nat) (bytes : Bytes) : n.Ages (n.write id bytes).2 := by
  rw [write]
  split
  · exact .refl n
  · split
    · exact .refl n
    · split
      · exact n.ages_modifySocket _ fun _ h => h
      · exact n.ages_modifySocket _ fun _ h => h

theorem ages_read (n : Network) (id most : Nat) : n.Ages (n.read id most).2 := by
  rw [read]
  split
  · exact .refl n
  · split
    · exact .refl n
    · exact .refl n
    · exact .refl n
    · exact n.ages_modifySocket _ fun _ h => h

theorem ages_finish (n : Network) (id : Nat) : n.Ages (n.finish id) := by
  rw [finish]
  split
  · exact .refl n
  · next s _ =>
    split
    · refine .trans (n.ages_modifySocket id ?_) (ages_modifySocket _ s.twin ?_)
      · exact fun _ h => h
      · exact fun _ h => h
    · exact .refl n

theorem ages_abort (n : Network) (id : Nat) : n.Ages (n.abort id) := by
  rw [abort]
  split
  · exact .refl n
  · next s _ =>
    refine .trans (n.ages_modifySocket id ?_) (ages_modifySocket _ s.twin ?_)
    · exact fun _ _ => rfl
    · exact fun _ h => h

theorem ages_close (n : Network) (id : Nat) : n.Ages (n.close id) := by
  rw [close]
  split
  · exact .refl n
  · split
    · exact .refl n
    · split
      · exact (n.ages_finish id).trans (ages_modifySocket _ id fun _ _ => rfl)
      · exact n.ages_abort id

/-- The connection of a socket that is aborted has ended. -/
theorem closed_abort (hid : id < n.sockets.length) : (n.abort id).Closed id := by
  have hs : n.socket? id = some n.sockets[id] := List.getElem?_eq_getElem hid
  rw [abort, hs]
  refine Ages.closed (ages_modifySocket _ _ ?_) id (closed_modifySocket hid ?_)
  · exact fun _ h => h
  · exact fun _ => rfl

/-- A socket that is closed is closed. -/
theorem closed_close (hid : id < n.sockets.length) : (n.close id).Closed id := by
  have hs : n.socket? id = some n.sockets[id] := List.getElem?_eq_getElem hid
  rw [close, hs]
  dsimp only
  split
  · next hopen => exact ⟨_, hs, hopen⟩
  · split
    · exact closed_modifySocket (Nat.lt_of_lt_of_le hid (n.ages_finish id).length_le) fun _ => rfl
    · exact closed_abort hid

/-- What closes one socket closes all of them, one after the other. -/
theorem closed_foldl {f : Network → Nat → Network} (hages : ∀ (n : Network) id, n.Ages (f n id))
    (hclosed : ∀ (n : Network) id, id < n.sockets.length → (f n id).Closed id) {ids : List Nat}
    (hlt : ∀ id ∈ ids, id < n.sockets.length) : ∀ id ∈ ids, (ids.foldl f n).Closed id := by
  induction ids generalizing n with
  | nil => simp
  | cons first ids ih =>
      intro id hid
      rcases List.mem_cons.1 hid with rfl | hid
      · exact (Ages.foldl hages _ ids).closed id (hclosed n id (hlt id (List.mem_cons_self ..)))
      · refine ih (fun i hi => ?_) id hid
        exact Nat.lt_of_lt_of_le (hlt i (List.mem_cons_of_mem _ hi)) (hages n first).length_le

/-! #### Listeners -/

theorem backlog_modifyListener (n : Network) (id listener : Nat) (f : Listener → Listener) :
    (n.modifyListener id f).backlog listener =
      if id = listener then ((n.listener? listener).map fun l => (f l).backlog).getD []
      else n.backlog listener := by
  rw [backlog, listener?, modifyListener, List.getElem?_modify, backlog, listener?]
  by_cases h : id = listener
  · simp [h, Function.comp_def]
  · simp [h]

/-- The backlog of a listener becomes a part of what it was. -/
theorem ages_modifyListener (n : Network) (id : Nat) {f : Listener → Listener}
    (hf : ∀ l, n.listener? id = some l → ∀ socket ∈ (f l).backlog, socket ∈ l.backlog) :
    n.Ages (n.modifyListener id f) := by
  refine .of_sockets_eq rfl rfl fun listener socket hsocket => ?_
  rw [backlog_modifyListener] at hsocket
  split at hsocket
  · next hid =>
    subst hid
    rw [backlog]
    cases hl : n.listener? id with
    | none => simp [hl] at hsocket
    | some l => exact hf l hl socket (by simpa [hl] using hsocket)
  · exact hsocket

theorem ages_addListener (n : Network) (address : Endpoint) :
    n.Ages (n.addListener address).2 := by
  refine .of_sockets_eq rfl rfl fun listener socket hsocket => ?_
  rw [backlog, listener?] at hsocket ⊢
  rw [addListener] at hsocket
  by_cases hlt : listener < n.listeners.length
  · rwa [List.getElem?_append_left hlt] at hsocket
  · rw [List.getElem?_append_right (Nat.not_lt.1 hlt)] at hsocket
    cases h : listener - n.listeners.length <;> simp [h] at hsocket

theorem ages_takePort (n : Network) : n.Ages n.takePort.2 :=
  .of_sockets_eq rfl rfl fun _ _ h => h

theorem ages_listen {address : Endpoint} (h : n.listen address = .ok (listener, n')) :
    n.Ages n' := by
  rw [listen] at h
  split at h
  · simp at h
  · split at h
    · obtain ⟨-, rfl⟩ := Prod.mk.inj (Except.ok.inj h)
      exact n.ages_takePort.trans (ages_addListener ..)
    · split at h
      · simp at h
      · obtain ⟨-, rfl⟩ := Prod.mk.inj (Except.ok.inj h)
        exact n.ages_addListener address

theorem ages_connect (n : Network) (listener : Nat) (here there : Endpoint) :
    n.Ages (n.connect listener here there).2 where
  host_eq := rfl
  length_le := by
    rw [length_connect]
    omega
  closed id := by
    rintro ⟨s, hs, hopen⟩
    obtain ⟨hlt, -⟩ := List.getElem?_eq_some_iff.1 hs
    rw [Closed, socket?_connect, if_neg (Nat.ne_of_lt hlt), if_neg (by omega)]
    exact ⟨s, hs, hopen⟩
  sound hn i socket hsocket := by
    have hold : ∀ socket ∈ n.backlog i, socket < n.sockets.length + 2 := fun socket h =>
      Nat.lt_trans (hn i socket h) (by omega)
    rw [length_connect]
    -- the new connection, if there is one, is the accepted end of the new pair
    have hmem : socket ∈ n.backlog i ∨ socket = n.sockets.length + 1 := by
      rw [connect] at hsocket
      dsimp only at hsocket
      rw [backlog_modifyListener] at hsocket
      split at hsocket
      · change socket ∈ ((n.listener? i).map _).getD [] at hsocket
        rw [backlog]
        cases hl : n.listener? i with
        | none => simp [hl] at hsocket
        | some l => simpa [hl] using hsocket
      · exact .inl hsocket
    rcases hmem with hmem | rfl
    · exact hold socket hmem
    · omega

theorem ages_dial (n : Network) (address : Endpoint) : n.Ages (n.dial address).2 := by
  rw [dial]
  split
  · exact .refl n
  · split
    · exact .refl n
    · split
      · exact .refl n
      · exact n.ages_takePort.trans (ages_connect ..)

theorem ages_accept (h : n.accept listener = some (socket, n')) : n.Ages n' := by
  obtain ⟨rest, hbacklog, rfl⟩ := accept_eq_some_iff.1 h
  refine n.ages_modifyListener listener fun l hl socket' hmem => ?_
  have hl' : l.backlog = socket :: rest := by simpa [backlog, hl] using hbacklog
  rw [hl']
  exact List.mem_cons_of_mem _ hmem

/-- A connection that is taken is there. -/
theorem lt_of_accept (hn : n.Sound) (h : n.accept listener = some (socket, n')) :
    socket < n.sockets.length := by
  obtain ⟨rest, hbacklog, -⟩ := accept_eq_some_iff.1 h
  exact hn listener socket (by simp [hbacklog])

theorem ages_closeListener (n : Network) (listener : Nat) : n.Ages (n.closeListener listener) :=
  (Ages.foldl ages_abort n _).trans (ages_modifyListener _ listener (by simp))

/-- The connections that nobody has taken from a listener end with it. -/
theorem closed_closeListener (hn : n.Sound) (hsocket : socket ∈ n.backlog listener) :
    (n.closeListener listener).Closed socket :=
  (ages_modifyListener _ listener (by simp)).closed socket
    (closed_foldl ages_abort (fun _ _ => closed_abort) (hn listener) socket hsocket)

/-! #### Uses -/

/-- **Whatever others do on a network, closed sockets stay closed.** -/
theorem ages_use (n : Network) (use : Use) : n.Ages (n.use use) := by
  cases use with
  | listen address =>
      rw [Network.use]
      split
      · next h => exact ages_listen h
      · exact .refl n
  | closeListener listener => exact n.ages_closeListener listener
  | silence address => exact .of_sockets_eq rfl rfl fun _ _ h => h
  | dial address => exact n.ages_dial address
  | accept listener =>
      rw [Network.use]
      cases h : n.accept listener with
      | none => exact .refl n
      | some result => exact ages_accept h
  | write socket bytes => exact n.ages_write socket bytes
  | read socket most => exact n.ages_read socket most
  | finish socket => exact n.ages_finish socket
  | close socket => exact n.ages_close socket
  | abort socket => exact n.ages_abort socket

theorem Handled.ages (h : n.Handled socket n') : n.Ages n' := by
  cases h with
  | read most => exact n.ages_read socket most
  | write bytes => exact n.ages_write socket bytes
  | neither => exact .refl n

end Network

/-! ### Pools -/

namespace Pool

variable {α : Type} {p : Pool α} {t t' : Task α} {id : Nat} {event : Event α}

/-- The task of a slot has a connection. -/
def Connected (p : Pool α) (id : Nat) : Prop := ∃ t ∈ p.tasks, t.id = id ∧ t.phase = .connected

theorem Connected.submit (hc : p.Connected id) (h : Orderly p) (destination : Endpoint)
    (payload : α) : (p.submit destination payload).1.Connected id := by
  by_cases hopen : p.closed = false
  · obtain ⟨q, t, hl, hlookup⟩ := h.exists_lookup destination
    rw [hl.submit_eq h hopen hlookup]
    have hq : q.Orderly := h.changes hl.changes
    -- a slot that is opened is another one
    obtain ⟨u, hu, hid, hphase⟩ : q.Connected id := by
      cases hl with
      | found => exact hc
      | opened =>
          obtain ⟨u, hu, hu'⟩ := hc
          exact ⟨u, List.mem_append_left _ hu, hu'⟩
    by_cases hut : u.id = t.id
    · obtain rfl := hq.eq_of_id hu hl.mem_tasks hut
      exact ⟨_, mem_put.2 (.inr ⟨rfl, u, hu, rfl⟩), hid, hphase⟩
    · exact ⟨u, mem_put.2 (.inl ⟨hu, hut⟩), hid, hphase⟩
  · rw [submit_of_closed _ _ _ (by simpa using hopen)]
    exact hc

theorem Connected.submitAll (hc : p.Connected id) (h : Orderly p) (destination : Endpoint)
    (payloads : List α) : (p.submitAll destination payloads).1.Connected id := by
  induction payloads generalizing p with
  | nil => exact hc
  | cons payload payloads ih =>
      exact ih (hc.submit h destination payload) (h.changes (h.submit_changes destination payload))

theorem Connected.evict (hc : p.Connected id) (h : Orderly p) (ht : t ∈ p.tasks)
    (hphase : t.phase = .ending) : (p.evict t.id).1.Connected id := by
  have hdetach : (p.detach t).Connected id := by
    obtain ⟨u, hu, hid, huphase⟩ := hc
    refine ⟨u, mem_remove.2 ⟨by rwa [tasks_unlink], fun hut => ?_⟩, hid, huphase⟩
    obtain rfl := h.eq_of_id hu ht hut
    simp [hphase] at huphase
  rw [h.evict_eq ht]
  split
  · exact hdetach
  · exact hdetach.submitAll (h.changes (h.detach_changes ht hphase)) t.destination t.queue

/-- A connection ends when its slot is told so, or fails to write. -/
theorem Move.phase_eq_connected {outcomes : List (Outcome α)} (hm : Move t event t' outcomes)
    (hphase : t.phase = .connected) (hfinish : event ≠ .finish t.id)
    (hwrite : event ≠ .write t.id false) : t'.phase = .connected := by
  cases hm with
  | write payload rest hphase' hqueue => exact hphase
  | lose => exact absurd rfl hwrite
  | finish => exact absurd rfl hfinish
  | abandon first hphase' => exact absurd rfl hfinish
  | _ => simp_all

/-- **Whatever else happens to a pool, a slot keeps its connection.** -/
theorem Connected.step (hc : p.Connected id) (h : Orderly p) (hfinish : event ≠ .finish id)
    (hwrite : event ≠ .write id false) : (p.step event).1.Connected id := by
  have htransition := h.transition event
  generalize p.step event = result at htransition
  cases htransition with
  | submitted destination payload => exact hc.submit h destination payload
  | moved t t' ht hmove =>
      obtain ⟨u, hu, rfl, hphase⟩ := hc
      have hfollows := hmove.follows
      by_cases hut : u.id = t.id
      · obtain rfl := h.eq_of_id hu ht hut
        exact ⟨t', mem_put.2 (.inr ⟨rfl, u, hu, hfollows.id_eq.symm⟩), hfollows.id_eq,
          hmove.phase_eq_connected hphase hfinish hwrite⟩
      · exact ⟨u, mem_put.2 (.inl ⟨hu, hfollows.id_eq ▸ hut⟩), rfl, hphase⟩
  | evicted t ht hphase => exact hc.evict h ht hphase
  | closed => exact hc
  | ignored => exact hc

/-- A slot has one task. -/
theorem Connected.phase_eq (hc : p.Connected id) (h : Orderly p) (ht : p.task? id = some t) :
    t.phase = .connected := by
  obtain ⟨u, hu, hid, hphase⟩ := hc
  obtain ⟨ht, htid⟩ := h.task?_eq_some_iff.1 ht
  rwa [h.eq_of_id ht hu (htid.trans hid.symm)]

/-- A slot has a connection once its dial has succeeded. -/
theorem connected_dialed (h : Orderly p) {first : α} (ht : p.task? id = some t)
    (hphase : t.phase = .dialing first) : (p.step (.dialed id true)).1.Connected id := by
  obtain ⟨hmem, rfl⟩ := h.task?_eq_some_iff.1 ht
  rw [h.step_eq_of_move hmem (.connect first hphase)]
  exact ⟨_, mem_put.2 (.inr ⟨rfl, t, hmem, rfl⟩), rfl, rfl⟩

end Pool

/-! ### Connections of a connector -/

namespace Hub

variable {h h' : Hub} {n n' : Network} {id socket now : Nat}

/-- The numbers of the connections and of their sockets. -/
def keys (h : Hub) : List (Nat × Nat) := h.attached.map fun a => (a.id, a.socket)

@[simp] theorem keys_attach (h : Hub) (id socket : Nat) (handler : Handler) :
    (h.attach id socket handler).keys = h.keys ++ [(id, socket)] := by
  simp [keys, attach]

@[simp] theorem keys_setHandler (h : Hub) (id : Nat) (handler : Handler) :
    (h.setHandler id handler).keys = h.keys := by
  rw [keys, setHandler, List.map_map, keys]
  refine List.map_congr_left fun a _ => ?_
  rw [Function.comp_apply]
  split <;> rfl

@[simp] theorem keys_detach (h : Hub) (id : Nat) :
    (h.detach id).keys = h.keys.filter fun k => k.1 ≠ id := by
  rw [keys, detach, keys, List.filter_map]
  rfl

theorem keys_dispatch (hdispatch : h.dispatch id = some h') : h'.keys = h.keys := by
  obtain ⟨a, message, rest, -, -, -, -, rfl⟩ := dispatch_eq_some_iff.1 hdispatch
  exact keys_setHandler h id _

theorem mem_keys_of_attached? {a : Attached} (ha : h.attached? id = some a) :
    (id, a.socket) ∈ h.keys := by
  obtain rfl := id_of_attached? ha
  exact List.mem_map.2 ⟨a, List.mem_of_find?_eq_some ha, rfl⟩

/-- A connection stays until its handler ends. -/
theorem keys_react {stimulus : Stimulus} {reaction : Reaction}
    (hreact : h.react id now stimulus = some (reaction, h')) :
    h'.keys = if reaction.ended.isSome then h.keys.filter fun k => k.1 ≠ id else h.keys := by
  obtain ⟨a, -, hreact⟩ := Option.map_eq_some_iff.1 hreact
  dsimp only at hreact
  cases hended : (a.handler.react now stimulus).ended with
  | none =>
      rw [hended] at hreact
      obtain ⟨rfl, rfl⟩ := Prod.mk.inj hreact
      rw [hended]
      exact keys_setHandler h id _
  | some result =>
      rw [hended] at hreact
      obtain ⟨rfl, rfl⟩ := Prod.mk.inj hreact
      rw [hended]
      exact keys_detach h id

/-- The connections have different numbers, and their sockets are there. -/
structure Sound (n : Network) (h : Hub) : Prop where
  nodup : (h.keys.map Prod.fst).Nodup
  lt : ∀ k ∈ h.keys, k.2 < n.sockets.length

theorem sound_of_keys_eq_nil (hkeys : h.keys = []) : h.Sound n := by
  constructor <;> simp [hkeys]

namespace Sound

theorem of_keys_eq (hs : h.Sound n) (hages : n.Ages n') (hkeys : h'.keys = h.keys) :
    h'.Sound n' where
  nodup := by
    rw [hkeys]
    exact hs.nodup
  lt k hk := Nat.lt_of_lt_of_le (hs.lt k (hkeys ▸ hk)) hages.length_le

theorem attach (hs : h.Sound n) (hages : n.Ages n') (hid : ∀ k ∈ h.keys, k.1 ≠ id)
    (hsocket : socket < n'.sockets.length) (handler : Handler) :
    (h.attach id socket handler).Sound n' where
  nodup := by
    rw [keys_attach, List.map_append, List.nodup_append]
    refine ⟨hs.nodup, List.nodup_singleton _, fun i hi j hj => ?_⟩
    obtain ⟨k, hk, rfl⟩ := List.mem_map.1 hi
    obtain rfl := List.mem_singleton.1 hj
    exact hid k hk
  lt k hk := by
    rw [keys_attach, List.mem_append, List.mem_singleton] at hk
    rcases hk with hk | rfl
    · exact Nat.lt_of_lt_of_le (hs.lt k hk) hages.length_le
    · exact hsocket

theorem of_filter {f : Nat × Nat → Bool} (hs : h.Sound n) (hages : n.Ages n')
    (hkeys : h'.keys = h.keys.filter f) : h'.Sound n' where
  nodup := by
    rw [hkeys]
    exact hs.nodup.sublist (List.filter_sublist.map Prod.fst)
  lt k hk := by
    rw [hkeys] at hk
    exact Nat.lt_of_lt_of_le (hs.lt k (List.mem_filter.1 hk).1) hages.length_le

/-- A number stands for one socket. -/
theorem socket_eq (hs : h.Sound n) {k : Nat × Nat} (hk : k ∈ h.keys) (hid : (id, socket) ∈ h.keys)
    (heq : k.1 = id) : k.2 = socket := by
  have hk' : k = (id, socket) := List.inj_on_of_nodup_map hs.nodup hk hid heq
  rw [hk']

end Sound

end Hub

/-- What a connector has it keeps, or it is closed. -/
def Network.Keeps (n : Network) (keys keys' : List (Nat × Nat)) : Prop :=
  ∀ k ∈ keys, k ∈ keys' ∨ n.Closed k.2

namespace Network.Keeps

variable {n n' : Network} {keys keys' keys'' : List (Nat × Nat)}

theorem refl (n : Network) (keys : List (Nat × Nat)) : n.Keeps keys keys := fun _ hk => .inl hk

theorem trans (h : n.Keeps keys keys') (hages : n.Ages n') (h' : n'.Keeps keys' keys'') :
    n'.Keeps keys keys'' := by
  intro k hk
  rcases h k hk with hk | hk
  · exact h' k hk
  · exact .inr (hages.closed k.2 hk)

end Network.Keeps

/-- When a handler ends, its connection is closed, and the other ones stay. -/
theorem Hub.Sound.keeps_close {h : Hub} {n n' : Network} {id socket : Nat} (hs : h.Sound n)
    (hages : n.Ages n') (hid : (id, socket) ∈ h.keys) :
    (n'.close socket).Keeps h.keys (h.keys.filter fun k => k.1 ≠ id) := by
  intro k hk
  by_cases hkid : k.1 = id
  · rw [hs.socket_eq hk hid hkid]
    exact .inr (Network.closed_close (Nat.lt_of_lt_of_le (hs.lt _ hid) hages.length_le))
  · exact .inl (List.mem_filter.2 ⟨hk, by simpa using hkid⟩)

/-! #### Rounds of a client -/

namespace Client.Round

variable {r r' : Client.Round} {n n' : Network} {slot now : Nat}

/-- The connections of a round are those of slots that have one. -/
structure Sound (n : Network) (r : Client.Round) : Prop where
  hub : r.hub.Sound n
  orderly : r.pool.Orderly
  connected : ∀ k ∈ r.hub.keys, r.pool.Connected k.1

/-- A round has become another one: its connections stay, or are closed. -/
def Leads (n : Network) (r r' : Client.Round) : Prop :=
  r'.Sound n ∧ n.Keeps r.hub.keys r'.hub.keys

namespace Sound

theorem of_ages (h : r.Sound n) (hages : n.Ages n') : r.Sound n' :=
  ⟨h.hub.of_keys_eq hages rfl, h.orderly, h.connected⟩

/-- Nothing changes about the pool and the connections. -/
theorem leads_of_eq (h : r.Sound n) (hages : n.Ages n') (hpool : r'.pool = r.pool)
    (hkeys : r'.hub.keys = r.hub.keys) : Leads n' r r' := by
  refine ⟨⟨h.hub.of_keys_eq hages hkeys, hpool ▸ h.orderly, ?_⟩, hkeys ▸ .refl n' _⟩
  rw [hpool, hkeys]
  exact h.connected

/-- Something happens to the pool that ends no connection. -/
theorem leads_step (h : r.Sound n) (event : Pool.Event Bytes)
    (hfinish : ∀ k ∈ r.hub.keys, event ≠ .finish k.1)
    (hwrite : ∀ k ∈ r.hub.keys, event ≠ .write k.1 false)
    (hpool : r'.pool = (r.pool.step event).1) (hhub : r'.hub = r.hub) : Leads n r r' := by
  refine ⟨⟨hhub ▸ h.hub, hpool ▸ h.orderly.step event, fun k hk => ?_⟩, hhub ▸ .refl n _⟩
  rw [hhub] at hk
  rw [hpool]
  exact (h.connected k hk).step h.orderly (hfinish k hk) (hwrite k hk)

theorem leads_submit (h : r.Sound n) (message : Message) :
    Leads n r (r.submit message).2 :=
  h.leads_step (.submit message.remote message.payload) (by simp) (by simp) rfl rfl

/-- A task that has no connection is not that of a connection. -/
theorem ne_of_phase (h : r.Sound n) {t : Pool.Task Bytes} (ht : r.pool.task? slot = some t)
    (hphase : t.phase ≠ .connected) : ∀ k ∈ r.hub.keys, k.1 ≠ slot := by
  rintro k hk rfl
  exact hphase ((h.connected k hk).phase_eq h.orderly ht)

theorem leads_dial (h : r.Sound n) (hdial : r.dial slot now = some r') : Leads n r r' := by
  obtain ⟨t, ht, hdial⟩ := Option.bind_eq_some_iff.1 hdial
  dsimp only at hdial
  split at hdial
  · obtain rfl := Option.some.inj hdial
    exact h.leads_step (.dial slot) (by simp) (by simp) rfl rfl
  · next hphase _ =>
    split at hdial
    · simp at hdial
    · obtain rfl := Option.some.inj hdial
      have hne := h.ne_of_phase ht (by simp [hphase])
      refine h.leads_step (.finish slot) (fun k hk hevent => ?_) (by simp) rfl rfl
      exact hne k hk (Pool.Event.finish.inj hevent).symm
  · simp at hdial

theorem leads_fail (h : r.Sound n) (slot : Nat) (destination : Endpoint) (fault : Fault) :
    Leads n r (r.fail slot destination fault).2 :=
  h.leads_step (.undialed slot) (by simp) (by simp) rfl rfl

theorem leads_giveUp {notices : List Notice} (h : r.Sound n)
    (hgiveUp : r.giveUp slot now = some (notices, r')) : Leads n r r' := by
  obtain ⟨deadline, -, hgiveUp⟩ := Option.bind_eq_some_iff.1 hgiveUp
  obtain ⟨t, -, hgiveUp⟩ := Option.bind_eq_some_iff.1 hgiveUp
  split at hgiveUp
  · obtain rfl : _ = r' := congrArg Prod.snd (Option.some.inj hgiveUp)
    exact h.leads_fail slot _ _
  · simp at hgiveUp

theorem leads_evict {notices : List Notice} (h : r.Sound n)
    (hevict : r.evict slot = some (notices, r')) : Leads n r r' := by
  obtain ⟨t, -, hevict⟩ := Option.bind_eq_some_iff.1 hevict
  split at hevict
  · obtain rfl : _ = r' := congrArg Prod.snd (Option.some.inj hevict)
    exact h.leads_step (.evict slot) (by simp) (by simp) rfl rfl
  · simp at hevict

/-- A dial that succeeds adds a connection. -/
theorem leads_attach (h : r.Sound n) (hages : n.Ages n') {t : Pool.Task Bytes} {first : Bytes}
    (ht : r.pool.task? slot = some t) (hphase : t.phase = .dialing first) {socket : Nat}
    (hsocket : socket < n'.sockets.length) (handler : Handler)
    (hpool : r'.pool = (r.pool.step (.dialed slot true)).1)
    (hhub : r'.hub = r.hub.attach slot socket handler) : Leads n' r r' := by
  have hne := h.ne_of_phase ht (by simp [hphase])
  refine ⟨⟨hhub ▸ h.hub.attach hages hne hsocket handler, hpool ▸ h.orderly.step _,
    fun k hk => ?_⟩, fun k hk => .inl ?_⟩
  · rw [hhub, Hub.keys_attach, List.mem_append, List.mem_singleton] at hk
    rw [hpool]
    rcases hk with hk | rfl
    · exact (h.connected k hk).step h.orderly (by simp) (by simp)
    · exact Pool.connected_dialed h.orderly ht hphase
  · rw [hhub, Hub.keys_attach]
    exact List.mem_append_left _ hk

end Sound

end Client.Round

namespace Network

variable {n n' : Network} {address : Endpoint} {socket : Nat}

/-- A dial that succeeds has made a socket. -/
theorem lt_of_dial (h : n.dial address = (.connected socket, n')) :
    socket < n'.sockets.length := by
  rw [dial] at h
  split at h
  · simp at h
  · split at h
    · simp at h
    · split at h
      · simp at h
      · obtain ⟨hsocket, rfl⟩ := Prod.mk.inj h
        rw [← Dial.connected.inj hsocket]
        exact Nat.lt_of_lt_of_eq (Nat.lt_add_of_pos_right (by decide)) (length_connect ..).symm

end Network

namespace Client.Round

variable {r r' : Client.Round} {n n' : Network} {slot now : Nat}

theorem ages_settle {notices : List Notice} (hsettle : r.settle slot now n = some (notices, r', n')) :
    n.Ages n' := by
  obtain ⟨t, -, hsettle⟩ := Option.bind_eq_some_iff.1 hsettle
  dsimp only at hsettle
  split at hsettle
  · next first hphase =>
    have hdial := n.ages_dial t.destination
    split at hsettle
    · simp at hsettle
    · next error network hrefused =>
      obtain ⟨-, -, rfl⟩ := by simpa using hsettle
      rwa [hrefused] at hdial
    · next socket network hconnected =>
      rw [hconnected] at hdial
      have hwrite := hdial.trans (network.ages_write socket first)
      split at hsettle
      · obtain ⟨-, -, rfl⟩ := by simpa using hsettle
        exact hwrite
      · obtain ⟨-, -, rfl⟩ := by simpa using hsettle
        exact hwrite.trans (Network.ages_close _ socket)
  · simp at hsettle

theorem Sound.leads_settle {notices : List Notice} (h : r.Sound n)
    (hsettle : r.settle slot now n = some (notices, r', n')) : Leads n' r r' := by
  have hages := ages_settle hsettle
  obtain ⟨t, ht, hsettle⟩ := Option.bind_eq_some_iff.1 hsettle
  dsimp only at hsettle
  split at hsettle
  · next first hphase =>
    split at hsettle
    · simp at hsettle
    · next error network hrefused =>
      obtain ⟨-, rfl, rfl⟩ := by simpa using hsettle
      exact ⟨(h.leads_fail slot t.destination (.io error)).1.of_ages hages, .refl _ _⟩
    · next socket network hconnected =>
      split at hsettle
      · obtain ⟨-, rfl, rfl⟩ := by simpa using hsettle
        refine h.leads_attach hages ht hphase ?_ _ rfl rfl
        exact Nat.lt_of_lt_of_le (Network.lt_of_dial hconnected)
          (network.ages_write socket first).length_le
      · obtain ⟨-, rfl, rfl⟩ := by simpa using hsettle
        have hstep : Leads n r ((r.undial slot).step (.dialed slot false)).2 :=
          h.leads_step (.dialed slot false) (by simp) (by simp) rfl rfl
        exact ⟨hstep.1.of_ages hages, .refl _ _⟩
  · simp at hsettle

/-- A handler reacts: what becomes of the pool. -/
theorem react_eq_some {stimulus : Stimulus} {reaction : Reaction} {notices : List Notice}
    (hreact : r.react slot now stimulus = some (reaction, notices, r')) :
    r.hub.react slot now stimulus = some (reaction, r'.hub) ∧
      if reaction.ended.isSome then
        r'.pool = (r.pool.step (.write slot false)).1 ∨ r'.pool = (r.pool.step (.finish slot)).1
      else r'.pool = (r.pool.step (.write slot true)).1 ∨ r'.pool = r.pool := by
  obtain ⟨⟨reaction', hub⟩, hhub, hreact⟩ := Option.bind_eq_some_iff.1 hreact
  rw [hhub]
  cases hended : reaction'.ended with
  | none =>
      simp only [hended] at hreact
      obtain ⟨rfl, -, rfl⟩ := by simpa using hreact
      rw [hended, if_neg (by simp)]
      cases stimulus with
      | payload payload outcome => exact ⟨rfl, .inl rfl⟩
      | _ => exact ⟨rfl, .inr rfl⟩
  | some result =>
      simp only [hended] at hreact
      obtain ⟨rfl, -, rfl⟩ := by simpa using hreact
      rw [hended, if_pos (by simp)]
      cases stimulus with
      | payload payload outcome => exact ⟨rfl, .inl rfl⟩
      | _ => exact ⟨rfl, .inr rfl⟩

/-- A handler reacts, and its connection is closed when it ends. -/
theorem Sound.leads_react (h : r.Sound n) (hages : n.Ages n') {a : Attached} {stimulus : Stimulus}
    {reaction : Reaction} {notices : List Notice} (ha : r.hub.attached? slot = some a)
    (hreact : r.react slot now stimulus = some (reaction, notices, r')) :
    Leads (if reaction.ended.isSome then n'.close a.socket else n') r r' := by
  obtain ⟨hhub, hpool⟩ := react_eq_some hreact
  have hkeys := Hub.keys_react hhub
  split at hkeys
  · next hended =>
    rw [if_pos hended] at hpool ⊢
    have hclose := hages.trans (n'.ages_close a.socket)
    refine ⟨⟨h.hub.of_filter hclose hkeys, ?_, fun k hk => ?_⟩, ?_⟩
    · rcases hpool with hpool | hpool <;> exact hpool ▸ h.orderly.step _
    · rw [hkeys] at hk
      obtain ⟨hk, hne⟩ := List.mem_filter.1 hk
      have hne' : slot ≠ k.1 := fun hslot => by simp [hslot] at hne
      have hconnected := h.connected k hk
      rcases hpool with hpool | hpool
      · exact hpool ▸ hconnected.step h.orderly (by simp) (by simp [hne'])
      · exact hpool ▸ hconnected.step h.orderly (by simp [hne']) (by simp)
    · exact hkeys ▸ h.hub.keeps_close hages (Hub.mem_keys_of_attached? ha)
  · next hended =>
    rw [if_neg hended] at hpool ⊢
    refine ⟨⟨h.hub.of_keys_eq hages hkeys, ?_, fun k hk => ?_⟩, hkeys ▸ .refl n' _⟩
    · rcases hpool with hpool | hpool
      · exact hpool ▸ h.orderly.step _
      · exact hpool ▸ h.orderly
    · have hconnected := h.connected k (hkeys ▸ hk)
      rcases hpool with hpool | hpool
      · exact hpool ▸ hconnected.step h.orderly (by simp) (by simp)
      · exact hpool ▸ hconnected

end Client.Round

/-! #### Servers -/

/-- Nothing but what runs already keeps a connector with a sink from being started twice. -/
theorem Lifecycle.running_eq_none {σ ρ : Type} {l : Lifecycle σ ρ} (h : l.startObstacle? = none) :
    l.running = none := by
  rw [startObstacle?] at h
  cases hrunning : l.running with
  | none => rfl
  | some r =>
      rw [isRunning, hrunning] at h
      split at h
      · simp at h
      · split at h <;> simp at h

theorem Registry.current_foldl_hangUp (r : Registry) (ids : List Nat) :
    (ids.foldl hangUp r).current = r.current := by
  induction ids generalizing r with
  | nil => rfl
  | cons id ids ih => exact ih (r.hangUp id)

namespace Server

variable {s s' : Server} {n n' : Network} {round : Server.Round} {id now socket : Nat}

/-- A server is started without connections, at an address at which it can listen. -/
theorem acquire_eq_ok {config : ServerConfig} (h : (acquire config n).2 = .ok (round, n')) :
    round.hub.attached = [] ∧ ∃ address, n.listen address = .ok (round.listener, n') := by
  unfold acquire at h
  split at h
  · simp at h
  · split at h
    · simp at h
    · next address _ _ listener network hlisten =>
      dsimp only at h
      cases hqueue : SinkQueue.start name config.sinkChannelCapacity.toNat with
      | error fault => simp [hqueue, Except.map] at h
      | ok queue =>
          rw [hqueue] at h
          obtain ⟨rfl, rfl⟩ := Prod.mk.inj (Except.ok.inj h)
          exact ⟨rfl, address, hlisten⟩

/-- The connections of a server that runs were enrolled, and none is enrolled in one that does not
run. -/
structure Sound (n : Network) (s : Server) : Prop where
  vacant : s.life.running = none → s.registry.current = .empty
  hub : ∀ round, s.life.running = some round → round.hub.Sound n
  enrolled : ∀ round, s.life.running = some round → ∀ k ∈ round.hub.keys, k.1 < s.registry.nextId

/-- A server has become another one: its connections stay, or are closed. -/
def Leads (n : Network) (s s' : Server) : Prop :=
  s'.Sound n ∧ ∀ round, s.life.running = some round →
    ∃ round', s'.life.running = some round' ∧ n.Keeps round.hub.keys round'.hub.keys

namespace Sound

theorem of_ages (h : s.Sound n) (hages : n.Ages n') : s.Sound n' :=
  ⟨h.vacant, fun round hround => (h.hub round hround).of_keys_eq hages rfl, h.enrolled⟩

/-- What runs is changed, and enrolments are not forgotten. -/
theorem leads_of_modify (h : s.Sound n) (hround : s.life.running = some round)
    {f : Server.Round → Server.Round} (hlife : s'.life = s.life.modify f)
    (hhub : (f round).hub.Sound n') (hnext : s.registry.nextId ≤ s'.registry.nextId)
    (henrolled : ∀ k ∈ (f round).hub.keys, k ∈ round.hub.keys ∨ k.1 < s'.registry.nextId)
    (hkeeps : n'.Keeps round.hub.keys (f round).hub.keys) : Leads n' s s' := by
  have hrunning : s'.life.running = some (f round) := by
    rw [hlife, Lifecycle.modify, hround, Option.map_some]
  refine ⟨⟨fun hnone => ?_, fun round' hround' => ?_, fun round' hround' k hk => ?_⟩,
    fun round₀ hround₀ => ?_⟩
  · simp [hrunning] at hnone
  · rwa [← Option.some.inj (hrunning.symm.trans hround')]
  · rw [← Option.some.inj (hrunning.symm.trans hround')] at hk
    rcases henrolled k hk with hk | hk
    · exact Nat.lt_of_lt_of_le (h.enrolled round hround k hk) hnext
    · exact hk
  · obtain rfl := Option.some.inj (hround.symm.trans hround₀)
    exact ⟨f round, hrunning, hkeeps⟩

theorem leads_accept (h : s.Sound n) (hn : n.Sound) (hround : s.life.running = some round)
    (haccept : n.accept round.listener = some (socket, n')) (remote : Endpoint) (now : Nat) :
    Leads n' s (s.accept socket remote now).2 := by
  have hages := Network.ages_accept haccept
  have hfresh : ∀ k ∈ round.hub.keys, k.1 ≠ s.registry.nextId := fun k hk =>
    Nat.ne_of_lt (h.enrolled round hround k hk)
  have hsocket := Nat.lt_of_lt_of_le (Network.lt_of_accept hn haccept) hages.length_le
  have hnext : s.registry.nextId < (s.registry.enrol remote).2.nextId := by simp
  refine h.leads_of_modify hround rfl ((h.hub round hround).attach hages hfresh hsocket _)
    (Nat.le_of_lt hnext) (fun k hk => ?_) fun k hk => .inl ?_
  · rw [Hub.keys_attach, List.mem_append, List.mem_singleton] at hk
    rcases hk with hk | rfl
    · exact .inl hk
    · exact .inr hnext
  · rw [Hub.keys_attach]
    exact List.mem_append_left _ hk

theorem leads_dispatch (h : s.Sound n) (hdispatch : s.dispatch id = some s') :
    Leads n s s' := by
  obtain ⟨round, hround, hdispatch⟩ := Option.bind_eq_some_iff.1 hdispatch
  obtain ⟨hub, hhub, hdispatch⟩ := Option.bind_eq_some_iff.1 hdispatch
  obtain rfl := Option.some.inj hdispatch
  have hkeys := Hub.keys_dispatch hhub
  exact h.leads_of_modify hround rfl ((h.hub round hround).of_keys_eq (.refl n) hkeys)
    (Nat.le_refl _) (fun k hk => .inl (hkeys ▸ hk)) fun k hk => .inl (hkeys ▸ hk)

/-- A handler reacts, and its connection is closed when it ends. -/
theorem leads_react (h : s.Sound n) (hages : n.Ages n') {a : Attached} {stimulus : Stimulus}
    {reaction : Reaction} {notices : List Notice} {registry : Registry}
    (hround : s.life.running = some round) (ha : round.hub.attached? id = some a)
    (hnext : registry.nextId = s.registry.nextId)
    (hreact : { s with registry }.react id now stimulus = some (reaction, notices, s')) :
    Leads (if reaction.ended.isSome then n'.close a.socket else n') s s' := by
  obtain ⟨round', hround', hreact⟩ := Option.bind_eq_some_iff.1 hreact
  obtain rfl : round = round' := Option.some.inj (hround.symm.trans hround')
  obtain ⟨⟨reaction', hub⟩, hhub, hreact⟩ := Option.bind_eq_some_iff.1 hreact
  have hsound := h.hub round hround
  have hkeys := Hub.keys_react hhub
  dsimp only at hreact
  cases hended : reaction'.ended with
  | none =>
      rw [hended] at hreact
      obtain ⟨rfl, -, rfl⟩ := by simpa using hreact
      rw [hended]
      rw [hended, if_neg (by simp)] at hkeys
      refine h.leads_of_modify hround rfl (hsound.of_keys_eq hages hkeys) (Nat.le_of_eq hnext.symm)
        (fun k hk => .inl (hkeys ▸ hk)) fun k hk => .inl (hkeys ▸ hk)
  | some result =>
      rw [hended] at hreact
      obtain ⟨rfl, -, rfl⟩ := by simpa using hreact
      rw [hended]
      rw [hended, if_pos (by simp)] at hkeys
      have hclose := hages.trans (n'.ages_close a.socket)
      refine h.leads_of_modify hround rfl (hsound.of_filter hclose hkeys) ?_ (fun k hk => ?_) ?_
      · simp [hnext]
      · exact .inl (List.mem_filter.1 (hkeys ▸ hk)).1
      · exact hkeys ▸ hsound.keeps_close hages (Hub.mem_keys_of_attached? ha)

/-- Nothing changes about the connections, and enrolments are not forgotten. -/
theorem leads_of_registry (h : s.Sound n) (hrunning : s'.life.running = s.life.running)
    (hnext : s'.registry.nextId = s.registry.nextId)
    (hcurrent : s.life.running = none → s'.registry.current = s.registry.current) :
    Leads n s s' := by
  refine ⟨⟨fun hnone => ?_, fun round hround => ?_, fun round hround k hk => ?_⟩,
    fun round hround => ⟨round, hrunning.trans hround, .refl n _⟩⟩
  · rw [hrunning] at hnone
    exact (hcurrent hnone).trans (h.vacant hnone)
  · exact h.hub round (hrunning.symm.trans hround)
  · rw [hnext]
    exact h.enrolled round (hrunning.symm.trans hround) k hk

theorem leads_send (h : s.Sound n) {message : Message} {notices : List Notice}
    (hsend : s.send message = .ok (notices, s')) : Leads n s s' := by
  obtain ⟨hrunning, rfl⟩ := send_eq_ok hsend
  refine h.leads_of_registry rfl (by simp) fun hnone => ?_
  simp [isRunning, Lifecycle.isRunning, hnone] at hrunning

/-- Queues to the sink are no connections. -/
theorem leads_setQueue (h : s.Sound n) (queue : SinkQueue) (earlier : Option Nat) :
    Leads n s (s.setQueue queue earlier) := by
  cases earlier with
  | some k => exact h.leads_of_registry rfl rfl fun _ => rfl
  | none =>
      refine ⟨⟨fun hnone => h.vacant (Option.map_eq_none_iff.1 hnone), fun round hround => ?_,
        fun round hround k hk => ?_⟩, fun round hround => ?_⟩
      · obtain ⟨round', hround', rfl⟩ := Option.map_eq_some_iff.1 hround
        exact (h.hub round' hround').of_keys_eq (.refl n) rfl
      · obtain ⟨round', hround', rfl⟩ := Option.map_eq_some_iff.1 hround
        exact h.enrolled round' hround' k hk
      · exact ⟨_, congrArg (Option.map _) hround, .refl n round.hub.keys⟩

theorem leads_deliver (h : s.Sound n) {earlier : Option Nat} {message : Message}
    {panic : Option Panic} {notices : List Notice}
    (hdeliver : s.deliver earlier = some (message, panic, notices, s')) : Leads n s s' := by
  obtain ⟨receiver, queue, registry, -, -, -, hregistry, rfl⟩ := deliver_eq_some hdeliver
  generalize queue.deliver receiver.sink = queue
  have hqueue := h.leads_setQueue queue earlier
  have hleads : Leads n (s.setQueue queue earlier) { s.setQueue queue earlier with registry } := by
    refine hqueue.1.leads_of_registry rfl ?_ fun hnone => ?_
    · rw [registry_setQueue]
      obtain rfl | ⟨-, rfl⟩ := hregistry
      · rfl
      · exact Registry.nextId_send ..
    · rw [registry_setQueue]
      obtain rfl | ⟨hrunning, -⟩ := hregistry
      · rfl
      · rw [← isRunning_setQueue s queue earlier, isRunning, Lifecycle.isRunning, hnone] at hrunning
        simp at hrunning
  exact ⟨hleads.1, fun round hround => hqueue.2 round hround⟩

/-- A server that does not run has no connections. -/
theorem of_not_running (hrunning : s.life.running = none)
    (hcurrent : s.registry.current = .empty) : s.Sound n :=
  ⟨fun _ => hcurrent, by simp [hrunning], by simp [hrunning]⟩

/-- **A stop closes every connection that a server has**, and those that it has not taken. -/
theorem stop_closes (h : s.Sound n) :
    n.Ages (s.stop n).2.2 ∧ (s.stop n).2.1.life.running = none ∧
      (s.stop n).2.1.registry.current = .empty ∧ ∀ round, s.life.running = some round →
        (∀ k ∈ round.hub.keys, (s.stop n).2.2.Closed k.2) ∧
          (n.Sound → ∀ socket ∈ n.backlog round.listener, (s.stop n).2.2.Closed socket) := by
  rw [Server.stop]
  cases hround : s.life.running with
  | none => exact ⟨.refl n, hround, h.vacant hround, by simp⟩
  | some round =>
      dsimp only
      have hlistener := n.ages_closeListener round.listener
      have hclose := Network.Ages.foldl Network.ages_close (n.closeListener round.listener)
        (round.hub.attached.map (·.socket))
      refine ⟨hlistener.trans hclose, rfl, Registry.current_foldl_hangUp .., ?_⟩
      rintro _ ⟨⟩
      refine ⟨fun k hk => ?_, fun hn socket hsocket => hclose.closed socket
        (Network.closed_closeListener hn hsocket)⟩
      obtain ⟨a, ha, rfl⟩ := List.mem_map.1 hk
      refine Network.closed_foldl Network.ages_close (fun _ _ => Network.closed_close)
        (fun socket hsocket => ?_) a.socket (List.mem_map.2 ⟨a, ha, rfl⟩)
      obtain ⟨b, hb, rfl⟩ := List.mem_map.1 hsocket
      exact Nat.lt_of_lt_of_le ((h.hub round hround).lt _ (List.mem_map.2 ⟨b, hb, rfl⟩))
        hlistener.length_le

/-- A server that starts has no connections. -/
theorem start_spec {notices : List Notice} (hstart : s.start n = (notices, .ok (s', n'))) :
    n.Ages n' ∧ s'.Sound n' ∧ s.life.running = none := by
  rw [start] at hstart
  split at hstart
  · simp at hstart
  · next hobstacle =>
    obtain ⟨⟨notices', acquired⟩, hacquire⟩ : ∃ result, acquire s.config n = result := ⟨_, rfl⟩
    rw [hacquire] at hstart
    obtain ⟨-, hstart⟩ := Prod.mk.inj hstart
    cases acquired with
    | error fault => simp [Except.map] at hstart
    | ok acquired =>
        obtain ⟨round, network⟩ := acquired
        obtain ⟨rfl, rfl⟩ := Prod.mk.inj (Except.ok.inj hstart)
        obtain ⟨hattached, address, hlisten⟩ :=
          acquire_eq_ok (congrArg Prod.snd hacquire)
        have hkeys : round.hub.keys = [] := by rw [Hub.keys, hattached, List.map_nil]
        refine ⟨Network.ages_listen hlisten, ⟨by simp, ?_, ?_⟩, Lifecycle.running_eq_none hobstacle⟩
        · rintro _ ⟨⟩
          exact Hub.sound_of_keys_eq_nil hkeys
        · rintro _ ⟨⟩
          simp [hkeys]

end Sound

end Server

/-! #### Connectors -/

namespace Machine

variable {m m' : Machine} {n n' : Network} {r r' : Client.Round} {id now : Nat}

/-- The numbers of a connector's connections, and of their sockets. -/
def keys (m : Machine) : List (Nat × Nat) := (m.hub?.map Hub.keys).getD []

/-- What a connector has is in order. -/
def Sound (n : Network) : Machine → Prop
  | server s => s.Sound n
  | client c => ∀ r, c.life.running = some r → r.Sound n
  | pool r => r.Sound n

/-- A connector has become another one: its connections stay, or are closed. -/
def Leads (n : Network) (m m' : Machine) : Prop := m'.Sound n ∧ n.Keeps m.keys m'.keys

theorem keys_of_hub? {h : Hub} (hh : m.hub? = some h) : m.keys = h.keys := by
  rw [keys, hh]
  rfl

theorem hub?_of_round? (hr : m.round? = some r) : m.hub? = some r.hub := by
  cases m with
  | server s => simp [round?] at hr
  | client c => exact congrArg (Option.map _) hr
  | pool r' => exact congrArg (Option.map _) hr

theorem hub?_setRound (hr : m.round? = some r) (r' : Client.Round) :
    (m.setRound r').hub? = some r'.hub := by
  cases m with
  | server s => simp [round?] at hr
  | client c => rfl
  | pool r => rfl

theorem Sound.round (h : m.Sound n) (hr : m.round? = some r) : r.Sound n := by
  cases m with
  | server s => simp [round?] at hr
  | client c => exact h r hr
  | pool r' =>
      obtain rfl := Option.some.inj hr
      exact h

theorem sound_setRound (hr : m.round? = some r) (h : r'.Sound n) : (m.setRound r').Sound n := by
  cases m with
  | server s => simp [round?] at hr
  | client c =>
      rintro _ ⟨⟩
      exact h
  | pool r => exact h

theorem leads_setRound (hr : m.round? = some r) (h : Client.Round.Leads n r r') :
    m.Leads n (m.setRound r') := by
  refine ⟨sound_setRound hr h.1, ?_⟩
  rw [keys_of_hub? (hub?_of_round? hr), keys_of_hub? (hub?_setRound hr r')]
  exact h.2

/-- A connector all of whose connections are closed. -/
theorem leads_of_closed (hm' : m'.Sound n)
    (h : ∀ hub, m.hub? = some hub → ∀ k ∈ hub.keys, n.Closed k.2) : m.Leads n m' := by
  refine ⟨hm', fun k hk => .inr ?_⟩
  cases hhub : m.hub? with
  | none => simp [keys, hhub] at hk
  | some hub => exact h hub hhub k (by rwa [keys_of_hub? hhub] at hk)

theorem leads_server {s s' : Server} (h : s.Leads n s') : (server s).Leads n (server s') := by
  refine ⟨h.1, ?_⟩
  cases hround : s.life.running with
  | none => simp [Network.Keeps, keys, hub?, hround]
  | some round =>
      obtain ⟨round', hround', hkeeps⟩ := h.2 round hround
      have hhub : (server s).hub? = some round.hub := congrArg (Option.map _) hround
      have hhub' : (server s').hub? = some round'.hub := congrArg (Option.map _) hround'
      rw [keys_of_hub? hhub, keys_of_hub? hhub']
      exact hkeeps

theorem Sound.of_ages (h : m.Sound n) (hages : n.Ages n') : m.Sound n' := by
  cases m with
  | server s => exact Server.Sound.of_ages h hages
  | client c => exact fun r hr => (h r hr).of_ages hages
  | pool r => exact Client.Round.Sound.of_ages h hages

theorem leads_dispatch (h : m.Sound n) (hdispatch : m.dispatch id = some m') : m.Leads n m' := by
  cases m with
  | server s =>
      obtain ⟨s', hs, rfl⟩ := Option.map_eq_some_iff.1 hdispatch
      exact leads_server (Server.Sound.leads_dispatch h hs)
  | client c =>
      obtain ⟨r, hr, hdispatch⟩ := Option.bind_eq_some_iff.1 hdispatch
      obtain ⟨hub, hhub, hdispatch⟩ := Option.bind_eq_some_iff.1 hdispatch
      obtain rfl := Option.some.inj hdispatch
      exact leads_setRound (m := client c) hr
        ((h r hr).leads_of_eq (.refl n) rfl (Hub.keys_dispatch hhub))
  | pool r =>
      obtain ⟨hub, hhub, hdispatch⟩ := Option.bind_eq_some_iff.1 hdispatch
      obtain rfl := Option.some.inj hdispatch
      exact leads_setRound (m := pool r) rfl
        (Client.Round.Sound.leads_of_eq h (.refl n) rfl (Hub.keys_dispatch hhub))

theorem leads_client {c c' : Client}
    (h : Option.Rel (Client.Round.Leads n) c.life.running c'.life.running) :
    (client c).Leads n (client c') := by
  rw [Leads, keys, keys, hub?, hub?]
  cases hr : c.life.running with
  | none =>
      rw [hr] at h
      cases hr' : c'.life.running with
      | none => exact ⟨fun r hr => by simp [hr'] at hr, by simp [Network.Keeps]⟩
      | some r' =>
          rw [hr'] at h
          cases h
  | some r =>
      rw [hr] at h
      cases hr' : c'.life.running with
      | none =>
          rw [hr'] at h
          cases h
      | some r' =>
          rw [hr'] at h
          cases h with
          | some h =>
              refine ⟨fun r hr => ?_, h.2⟩
              exact Option.some.inj (hr'.symm.trans hr) ▸ h.1

/-- Queues to the sink of a client are no connections. -/
theorem leads_setQueue {c : Client} (h : (client c).Sound n) (queue : SinkQueue)
    (earlier : Option Nat) :
    Option.Rel (Client.Round.Leads n) c.life.running (c.setQueue queue earlier).life.running := by
  have hrunning : ∀ f : Client.Round → Client.Round,
      (∀ r, c.life.running = some r → Client.Round.Leads n r (f r)) →
        Option.Rel (Client.Round.Leads n) c.life.running (c.life.running.map f) := fun f hf => by
    cases hr : c.life.running with
    | none => exact .none
    | some r => exact .some (hf r hr)
  cases earlier with
  | none => exact hrunning _ fun r hr => (h r hr).leads_of_eq (.refl n) rfl rfl
  | some k =>
      have hsame := hrunning id fun r hr => (h r hr).leads_of_eq (.refl n) rfl rfl
      rwa [Option.map_id_apply] at hsame

theorem leads_deliver {earlier : Option Nat} {message : Message} {panic : Option Panic}
    {notices : List Notice} (h : m.Sound n)
    (hdeliver : m.deliver earlier = some (message, panic, notices, m')) : m.Leads n m' := by
  cases m with
  | server s =>
      obtain ⟨⟨_, _, _, s'⟩, hs, hdeliver⟩ := Option.bind_eq_some_iff.1 hdeliver
      obtain ⟨-, -, -, rfl⟩ := by simpa using hdeliver
      exact leads_server (Server.Sound.leads_deliver h hs)
  | client c =>
      obtain ⟨⟨_, _, _, c'⟩, hc, hdeliver⟩ := Option.bind_eq_some_iff.1 hdeliver
      obtain ⟨-, -, -, rfl⟩ := by simpa using hdeliver
      refine leads_client ?_
      obtain ⟨receiver, queue, taken, -, -, -, htaken, hc'⟩ := Client.deliver_eq_some hc
      have hqueue : Option.Rel (Client.Round.Leads n) c.life.running taken.life.running := by
        rw [htaken]
        exact leads_setQueue h _ earlier
      obtain rfl | ⟨r, hr, rfl⟩ := hc'
      · exact hqueue
      · rw [hr] at hqueue
        cases hround : c.life.running with
        | none =>
            rw [hround] at hqueue
            cases hqueue
        | some r₀ =>
            rw [hround] at hqueue
            cases hqueue with
            | some hleads => exact .some ⟨(hleads.1.leads_submit _).1,
                hleads.2.trans (.refl n) (hleads.1.leads_submit _).2⟩
  | pool r =>
      rw [deliver] at hdeliver
      cases earlier with
      | none =>
          obtain ⟨message', -, heq⟩ := Option.bind_eq_some_iff.1 hdeliver
          obtain ⟨-, -, -, rfl⟩ := by simpa using heq
          exact leads_setRound (m := pool r) rfl
            (Client.Round.Sound.leads_of_eq h (.refl n) rfl rfl)
      | some k => simp at hdeliver

theorem leads_react {hub : Hub} {a : Attached} {taken : Machine} {stimulus : Stimulus}
    {reaction : Reaction} {notices : List Notice} (h : m.Sound n) (hages : n.Ages n')
    (hhub : m.hub? = some hub) (ha : hub.attached? id = some a)
    (htaken : taken = m ∨ taken = m.takePayload id)
    (hreact : taken.react id now stimulus = some (reaction, notices, m')) :
    m.Leads (if reaction.ended.isSome then n'.close a.socket else n') m' := by
  cases m with
  | server s =>
      obtain ⟨registry, hnext, rfl⟩ : ∃ registry, registry.nextId = s.registry.nextId ∧
          taken = server { s with registry } := by
        obtain rfl | rfl := htaken
        · exact ⟨s.registry, rfl, rfl⟩
        · exact ⟨_, Registry.nextId_receive s.registry id, rfl⟩
      obtain ⟨⟨_, _, s'⟩, hs, hreact⟩ := Option.bind_eq_some_iff.1 hreact
      obtain ⟨rfl, -, rfl⟩ := by simpa using hreact
      obtain ⟨round, hround, rfl⟩ := Option.map_eq_some_iff.1 hhub
      exact leads_server (Server.Sound.leads_react h hages hround ha hnext hs)
  | client c =>
      obtain rfl : taken = client c := htaken.elim (fun h => h) fun h => h
      obtain ⟨r, hr, hreact⟩ := Option.bind_eq_some_iff.1 hreact
      obtain ⟨⟨_, _, r'⟩, hr', hreact⟩ := Option.bind_eq_some_iff.1 hreact
      obtain ⟨rfl, -, rfl⟩ := by simpa using hreact
      obtain rfl := Option.some.inj ((hub?_of_round? (m := client c) hr).symm.trans hhub)
      exact leads_setRound (m := client c) hr ((h r hr).leads_react hages ha hr')
  | pool r =>
      obtain rfl : taken = pool r := htaken.elim (fun h => h) fun h => h
      obtain ⟨⟨_, _, r'⟩, hr', hreact⟩ := Option.bind_eq_some_iff.1 hreact
      obtain ⟨rfl, -, rfl⟩ := by simpa using hreact
      obtain rfl := Option.some.inj hhub
      exact leads_setRound (m := pool r) rfl (Client.Round.Sound.leads_react h hages ha hr')

theorem Moves.ages (hm : m.Moves now n n' m') : n.Ages n' := by
  cases hm with
  | accept hm hround haccept remote => exact Network.ages_accept haccept
  | react hhub ha hnetwork htaken hreact =>
      split
      · exact hnetwork.ages.trans (Network.ages_close ..)
      · exact hnetwork.ages
  | settle hr hsettle => exact Client.Round.ages_settle hsettle
  | _ => exact .refl n

/-- **What a connector does by itself**: its connections stay, or are closed. -/
theorem Moves.leads (hn : n.Sound) (h : m.Sound n) (hm : m.Moves now n n' m') :
    m.Leads n' m' := by
  cases hm with
  | accept hm hround haccept remote =>
      subst hm
      exact leads_server (Server.Sound.leads_accept h hn hround haccept remote now)
  | react hhub ha hnetwork htaken hreact =>
      have ha := (Hub.selecting?_eq_some_iff.1 ha).1
      exact leads_react h hnetwork.ages hhub ha htaken hreact
  | dispatch hdispatch => exact leads_dispatch h hdispatch
  | deliver hdeliver => exact leads_deliver h hdeliver
  | dial hr hdial => exact leads_setRound hr ((h.round hr).leads_dial hdial)
  | settle hr hsettle => exact leads_setRound hr ((h.round hr).leads_settle hsettle)
  | giveUp hr hgiveUp => exact leads_setRound hr ((h.round hr).leads_giveUp hgiveUp)
  | evict hr hevict => exact leads_setRound hr ((h.round hr).leads_evict hevict)

end Machine

/-! ### Worlds -/

/-- A connector that is given its sink has what it had. -/
theorem Server.setReceiver_eq_ok {s s' : Server} {receiver : Receiver}
    (h : s.setReceiver receiver = .ok s') :
    s'.life.running = s.life.running ∧ s'.registry = s.registry := by
  rw [setReceiver, Lifecycle.setSink] at h
  split at h
  · cases h
  · obtain rfl := Except.ok.inj h
    exact ⟨rfl, rfl⟩

theorem Client.setReceiver_eq_ok {c c' : Client} {receiver : Receiver}
    (h : c.setReceiver receiver = .ok c') : c'.life.running = c.life.running := by
  rw [setReceiver, Lifecycle.setSink] at h
  split at h
  · cases h
  · obtain rfl := Except.ok.inj h
    rfl

namespace Client

variable {c c' : Client} {n : Network}

/-- A client that starts has no connections. -/
theorem start_spec (hstart : c.start = .ok c') :
    c.life.running = none ∧ ∀ r, c'.life.running = some r → r.Sound n := by
  rw [start, Lifecycle.start] at hstart
  cases hobstacle : c.life.startObstacle? with
  | some misuse => simp [hobstacle, Except.map] at hstart
  | none =>
      rw [hobstacle, acquire] at hstart
      refine ⟨Lifecycle.running_eq_none hobstacle, fun r hr => ?_⟩
      cases hqueue : SinkQueue.start name c.config.sinkChannelCapacity.toNat with
      | error fault => simp [hqueue, Except.map] at hstart
      | ok queue =>
          rw [hqueue] at hstart
          obtain rfl := Except.ok.inj hstart
          obtain rfl := Option.some.inj hr
          exact ⟨Hub.sound_of_keys_eq_nil rfl, Pool.orderly_empty, by simp [Round.new, Hub.keys]⟩

/-- **A stop closes every connection that a client has.** -/
theorem stop_closes (h : ∀ r, c.life.running = some r → r.Sound n) :
    n.Ages (c.stop n).2.2 ∧ (c.stop n).2.1.life.running = none ∧
      ∀ r, c.life.running = some r → ∀ k ∈ r.hub.keys, (c.stop n).2.2.Closed k.2 := by
  rw [Client.stop]
  cases hr : c.life.running with
  | none => exact ⟨.refl n, hr, by simp⟩
  | some r =>
      dsimp only [Round.stop]
      refine ⟨.foldl Network.ages_close n _, rfl, ?_⟩
      rintro _ ⟨⟩ k hk
      obtain ⟨a, ha, rfl⟩ := List.mem_map.1 hk
      refine Network.closed_foldl Network.ages_close (fun _ _ => Network.closed_close)
        (fun socket hsocket => ?_) a.socket (List.mem_map.2 ⟨a, ha, rfl⟩)
      obtain ⟨b, hb, rfl⟩ := List.mem_map.1 hsocket
      exact (h r hr).hub.lt _ (List.mem_map.2 ⟨b, hb, rfl⟩)

end Client

namespace World

variable {w w' : World} {id node : Nat} {n : Node}

/-- The numbers of a connector's connections, and of their sockets. -/
def keys (w : World) (id : Nat) : List (Nat × Nat) :=
  ((w.node? id).map fun n => n.machine.keys).getD []

/-- What the network and the connectors have is in order. -/
structure Sound (w : World) : Prop where
  network : w.network.Sound
  machine : ∀ id n, w.node? id = some n → n.machine.Sound w.network

/-- A world has become another one: closed sockets and what connectors had are accounted for. -/
structure Leads (w w' : World) : Prop where
  sound : w'.Sound
  ages : w.network.Ages w'.network
  keeps : ∀ id, w'.network.Keeps (w.keys id) (w'.keys id)

theorem Leads.refl (h : w.Sound) : w.Leads w := ⟨h, .refl _, fun _ => .refl _ _⟩

theorem Leads.trans {w'' : World} (h : w.Leads w') (h' : w'.Leads w'') : w.Leads w'' :=
  ⟨h'.sound, h.ages.trans h'.ages, fun id => (h.keeps id).trans h'.ages (h'.keeps id)⟩

/-- One connector has become another one, and the network with it. -/
theorem Sound.leads_set (h : w.Sound) (hn : w.node? node = some n) {n' : Node} {network : Network}
    (hages : w.network.Ages network) (hleads : n.machine.Leads network n'.machine)
    (notices : List Notice) : w.Leads (w.set node n' network notices) where
  sound := by
    refine ⟨hages.sound h.network, fun id n₀ hn₀ => ?_⟩
    rw [node?_set hn] at hn₀
    split at hn₀
    · exact Option.some.inj hn₀ ▸ hleads.1
    · exact (h.machine id n₀ hn₀).of_ages hages
  ages := hages
  keeps id := by
    rw [keys, keys, node?_set hn]
    split
    · next hid =>
      rw [hid, hn]
      exact hleads.2
    · exact .refl _ _

theorem Sound.leads_act (h : w.Sound) {action : Action} (hact : w.act action = some w') :
    w.Leads w' := by
  obtain ⟨ms, -, rfl⟩ | ⟨node, -, n, network, machine, received, notices, hn, hmoves, -, rfl⟩ :=
    act_spec hact
  · exact ⟨⟨h.network, h.machine⟩, .refl _, fun _ => .refl _ _⟩
  · exact h.leads_set hn hmoves.ages (hmoves.leads h.network (h.machine node n hn)) notices

/-- Whatever connectors do by themselves, the network stays on its host. -/
theorem host_act {action : Action} (hact : w.act action = some w') :
    w'.network.host = w.network.host := by
  obtain ⟨ms, -, rfl⟩ | ⟨node, -, n, network, machine, received, notices, -, hmoves, -, rfl⟩ :=
    act_spec hact
  · rfl
  · exact hmoves.ages.host_eq

theorem Sound.leads_use (h : w.Sound) (use : Network.Use) :
    w.Leads { w with network := w.network.use use } := by
  have hages := w.network.ages_use use
  exact ⟨⟨hages.sound h.network, fun id n hn => (h.machine id n hn).of_ages hages⟩, hages,
    fun _ => .refl _ _⟩

theorem Sound.leads_note (h : w.Sound) (notices : List Notice) : w.Leads (w.note notices) :=
  ⟨⟨h.network, h.machine⟩, .refl _, fun _ => .refl _ _⟩

theorem Sound.leads_setMachine (h : w.Sound) (hn : w.node? node = some n) {machine : Machine}
    {network : Network} (hages : w.network.Ages network)
    (hleads : n.machine.Leads network machine) (notices : List Notice) :
    w.Leads (({ w with network }.setMachine node machine).note notices) := by
  rw [note_setMachine hn]
  exact h.leads_set hn hages hleads _

/-- A call that may fail. -/
theorem Sound.leads_called (h : w.Sound) (hn : w.node? node = some n)
    {result : Except Fault (List Notice × Machine)}
    (hresult : ∀ notices machine, result = .ok (notices, machine) →
      n.machine.Leads w.network machine) : w.Leads (w.called node result).2 := by
  cases result with
  | error fault => exact .refl h
  | ok result => exact h.leads_setMachine hn (.refl _) (hresult _ _ rfl) result.1

/-! #### Requests -/

/-- A result that is made of another one. -/
theorem exists_of_map_eq_ok {ε α β : Type} {f : α → β} {x : Except ε α} {b : β}
    (h : x.map f = .ok b) : ∃ a, x = .ok a ∧ f a = b := by
  cases x with
  | error fault => simp [Except.map] at h
  | ok a => exact ⟨a, rfl, Except.ok.inj h⟩

theorem ask_leads_server {s : Server} (h : w.Sound) (hn : w.node? node = some n)
    (hm : n.machine = .server s) (request : Request) : w.Leads (w.ask node request).2 := by
  have hs : s.Sound w.network := by simpa [hm, Machine.Sound] using h.machine node n hn
  rw [ask, hn]
  dsimp only
  rw [hm]
  have hhub : ∀ hub, n.machine.hub? = some hub →
      ∃ round, s.life.running = some round ∧ round.hub = hub := fun hub hhub => by
    rw [hm] at hhub
    exact Option.map_eq_some_iff.1 hhub
  have hclosed : ∀ hub, n.machine.hub? = some hub → ∀ k ∈ hub.keys,
      (s.stop w.network).2.2.Closed k.2 := fun hub hhub' k hk => by
    obtain ⟨round, hround, rfl⟩ := hhub hub hhub'
    exact (hs.stop_closes.2.2.2 round hround).1 k hk
  obtain ⟨hages, hrunning, hcurrent, -⟩ := hs.stop_closes
  cases request with
  | setReceiver receiver =>
      refine h.leads_called hn fun notices machine hok => ?_
      obtain ⟨s', hset, hs'⟩ := exists_of_map_eq_ok hok
      obtain ⟨-, rfl⟩ := Prod.mk.inj hs'
      obtain ⟨hrunning, hregistry⟩ := Server.setReceiver_eq_ok hset
      exact hm ▸ Machine.leads_server (hs.leads_of_registry hrunning (by rw [hregistry])
        fun _ => by rw [hregistry])
  | start =>
      rw [start]
      dsimp only
      split
      · next notices s' network hstart =>
        obtain ⟨hages, hs', hnone⟩ := Server.Sound.start_spec hstart
        refine h.leads_setMachine hn hages (Machine.leads_of_closed ?_ fun hub hhub' => ?_) notices
        · exact hs'
        · obtain ⟨round, hround, -⟩ := hhub hub hhub'
          simp [hnone] at hround
      · exact h.leads_note _
  | stop =>
      refine h.leads_setMachine hn hages (Machine.leads_of_closed ?_ hclosed) _
      exact .of_not_running hrunning hcurrent
  | destroy =>
      refine h.leads_setMachine hn hages (Machine.leads_of_closed ?_ hclosed) _
      exact .of_not_running rfl hcurrent
  | send message =>
      refine h.leads_called hn fun notices machine hok => ?_
      obtain ⟨⟨_, s'⟩, hsend, hs'⟩ := exists_of_map_eq_ok hok
      obtain ⟨-, rfl⟩ := Prod.mk.inj hs'
      exact hm ▸ Machine.leads_server (hs.leads_send hsend)

theorem ask_leads_client {c : Client} (h : w.Sound) (hn : w.node? node = some n)
    (hm : n.machine = .client c) (request : Request) : w.Leads (w.ask node request).2 := by
  have hc : ∀ r, c.life.running = some r → r.Sound w.network := by
    simpa [hm, Machine.Sound] using h.machine node n hn
  rw [ask, hn]
  dsimp only
  rw [hm]
  have hhub : ∀ hub, n.machine.hub? = some hub →
      ∃ r, c.life.running = some r ∧ r.hub = hub := fun hub hhub => by
    rw [hm] at hhub
    exact Option.map_eq_some_iff.1 hhub
  obtain ⟨hages, hrunning, hstop⟩ := Client.stop_closes hc
  have hclosed : ∀ hub, n.machine.hub? = some hub → ∀ k ∈ hub.keys,
      (c.stop w.network).2.2.Closed k.2 := fun hub hhub' => by
    obtain ⟨r, hr, rfl⟩ := hhub hub hhub'
    exact hstop r hr
  cases request with
  | setReceiver receiver =>
      refine h.leads_called hn fun notices machine hok => ?_
      obtain ⟨c', hset, hc'⟩ := exists_of_map_eq_ok hok
      obtain ⟨-, rfl⟩ := Prod.mk.inj hc'
      have hrunning := Client.setReceiver_eq_ok hset
      refine hm ▸ Machine.leads_client ?_
      rw [hrunning]
      cases hr : c.life.running with
      | none => exact .none
      | some r => exact .some ⟨hc r hr, .refl _ _⟩
  | start =>
      refine h.leads_called hn fun notices machine hok => ?_
      obtain ⟨c', hstart, hc'⟩ := exists_of_map_eq_ok hok
      obtain ⟨-, rfl⟩ := Prod.mk.inj hc'
      obtain ⟨hnone, hsound⟩ := Client.start_spec hstart
      refine Machine.leads_of_closed hsound fun hub hhub' => ?_
      obtain ⟨r, hr, -⟩ := hhub hub hhub'
      simp [hnone] at hr
  | stop =>
      refine h.leads_setMachine hn hages (Machine.leads_of_closed ?_ hclosed) _
      exact fun r hr => absurd (hrunning.symm.trans hr) (by simp)
  | destroy =>
      refine h.leads_setMachine hn hages (Machine.leads_of_closed ?_ hclosed) _
      exact fun r hr => by simp [Lifecycle.destroy, Lifecycle.stop] at hr
  | send message =>
      refine h.leads_called hn fun notices machine hok => ?_
      obtain ⟨⟨_, c'⟩, hsend, hc'⟩ := exists_of_map_eq_ok hok
      obtain ⟨-, rfl⟩ := Prod.mk.inj hc'
      obtain ⟨r, hr, rfl⟩ := Client.send_eq_ok hsend
      refine hm ▸ Machine.leads_client ?_
      rw [hr]
      exact .some ((hc r hr).leads_submit message)

/-- **What is asked of a connector**: connections stay, or are closed. -/
theorem Sound.leads_ask (h : w.Sound) (node : Nat) (request : Request) :
    w.Leads (w.ask node request).2 := by
  cases hn : w.node? node with
  | none =>
      rw [ask, hn]
      exact .refl h
  | some n =>
      cases hm : n.machine with
      | server s => exact ask_leads_server h hn hm request
      | client c => exact ask_leads_client h hn hm request
      | pool r =>
          have hr : r.Sound w.network := by simpa [hm, Machine.Sound] using h.machine node n hn
          have hself : ∀ r', Client.Round.Leads w.network r r' →
              n.machine.Leads w.network (.pool r') := fun r' hleads =>
            hm ▸ Machine.leads_setRound (m := .pool r) rfl hleads
          have hsame := hself r ⟨hr, .refl _ _⟩
          have hclose := hself r.close (hr.leads_step .close (by simp) (by simp) rfl rfl)
          rw [ask, hn]
          dsimp only
          rw [hm]
          cases request with
          | setReceiver receiver => exact h.leads_setMachine hn (.refl _) hsame []
          | start => exact h.leads_setMachine hn (.refl _) hsame []
          | stop => exact h.leads_setMachine hn (.refl _) hclose []
          | destroy => exact h.leads_setMachine hn (.refl _) hclose []
          | send message =>
              exact h.leads_setMachine hn (.refl _) (hself _ (hr.leads_submit message)) _

/-! #### Runs -/

/-- **Whatever happens**: connections stay, or are closed. -/
theorem Sound.leads_happen (h : w.Sound) (happening : Happening) :
    w.Leads (w.happen happening) := by
  cases happening with
  | ask node request => exact h.leads_ask node request
  | act action =>
      rw [happen]
      cases hact : w.act action with
      | none => exact .refl h
      | some w' => exact h.leads_act hact
  | use use => exact h.leads_use use

theorem Sound.leads_after (h : w.Sound) (happenings : List Happening) :
    w.Leads (w.after happenings) := by
  induction happenings generalizing w with
  | nil => exact .refl h
  | cons happening happenings ih =>
      have hfirst := h.leads_happen happening
      exact hfirst.trans (ih hfirst.sound)

/-- New connectors have no connections. -/
theorem sound_inhabited (host : Host) (configs : List (ServerConfig ⊕ ClientConfig)) :
    (inhabited host configs).Sound where
  network listener socket hsocket := by
    simp [inhabited, Network.backlog, Network.listener?] at hsocket
  machine id n hn := by
    obtain ⟨config, -, rfl⟩ := List.mem_map.1 (List.mem_of_getElem? hn)
    cases config with
    | inl config => exact Server.Sound.of_not_running rfl rfl
    | inr config => exact fun r hr => by simp [Client.new] at hr

end World

/-! ### Connectors that do not run -/

namespace Machine

variable {m : Machine} {n : Network}

/-- A connector that does not run has no connections. -/
theorem keys_eq_nil (h : m.isRunning = false) : m.keys = [] := by
  cases m with
  | server s =>
      have hnone : s.life.running = none := Lifecycle.running_eq_none_iff.2 h
      simp [keys, hub?, hnone]
  | client c =>
      have hnone : c.life.running = none := Lifecycle.running_eq_none_iff.2 h
      simp [keys, hub?, hnone]
  | pool r => simp [isRunning] at h

/-- A connector that does not run has a connection to nobody. -/
theorem Sound.size_eq_zero (hm : m.Sound n) (h : m.isRunning = false) :
    m.size = 0 ∧ ∀ remote, m.isConnected remote = false := by
  cases m with
  | server s =>
      have hnone : s.life.running = none := Lifecycle.running_eq_none_iff.2 h
      have hcurrent : s.registry.current = .empty := Server.Sound.vacant hm hnone
      rw [size, Server.connectionCount, Registry.size, hcurrent]
      refine ⟨rfl, fun remote => ?_⟩
      rw [isConnected, Server.isConnected, Registry.contains, hcurrent]
      rfl
  | client c =>
      have hnone : c.life.running = none := Lifecycle.running_eq_none_iff.2 h
      rw [size, Client.poolSize, hnone]
      refine ⟨rfl, fun remote => ?_⟩
      rw [isConnected, Client.isConnected, hnone]
      rfl
  | pool r => simp [isRunning] at h

/-- The connections that a server has not taken from its listener. -/
def waiting (n : Network) : Machine → List Nat
  | server s => (s.life.running.map fun round => n.backlog round.listener).getD []
  | _ => []

end Machine

namespace World

variable {w : World} {id : Nat} {n : Node}

/-- **Whatever a connector had is closed once it does not run.** -/
theorem Sound.closed_of_not_running (h : w.Sound) (happenings : List Happening)
    (hn : (w.after happenings).node? id = some n) (hrunning : n.machine.isRunning = false) :
    ∀ k ∈ w.keys id, (w.after happenings).network.Closed k.2 := by
  intro k hk
  rcases (h.leads_after happenings).keeps id k hk with hmem | hclosed
  · rw [keys, hn, Option.map_some, Option.getD_some, n.machine.keys_eq_nil hrunning] at hmem
    exact absurd hmem List.not_mem_nil
  · exact hclosed

/-- The connections that a server has not taken are closed when it stops. -/
theorem Sound.closed_waiting (h : w.Sound) (hn : w.node? id = some n) :
    ∀ socket ∈ n.machine.waiting w.network, (w.ask id .stop).2.network.Closed socket := by
  intro socket hsocket
  cases hm : n.machine with
  | server s =>
      have hs : s.Sound w.network := by simpa [hm, Machine.Sound] using h.machine id n hn
      rw [hm, Machine.waiting] at hsocket
      cases hround : s.life.running with
      | none => simp [hround] at hsocket
      | some round =>
          rw [hround, Option.map_some, Option.getD_some] at hsocket
          rw [ask, hn]
          dsimp only
          rw [hm]
          exact (hs.stop_closes.2.2.2 round hround).2 h.network socket hsocket
  | client c => simp [hm, Machine.waiting] at hsocket
  | pool r => simp [hm, Machine.waiting] at hsocket

end World

end Framewire
