/-
**All peers of an echoing server.**

A site holds the lines of all peers beside each other: connections and enrolments have the numbers
in which the peers connected, the sockets of the connection of number `n` are those of `2 * n` and
`2 * n + 1`, and the messages of all peers wait in one queue, told apart by their addresses.  A move
of the server works on one line and leaves the others as they are.  So all lines stay sound, and
each move takes effort off the site.

Main definitions:

* `Echo.Orderly` — numbers and addresses of a site are as they should be;
* `Echo.Lines` — every line of a site is sound;
* `Echo.effort`, `Echo.Advance` — how much is left to do on all lines; a site with less of it.

Main results:

* `Echo.Lines.change` — where one line changes and the others do not, all lines stay sound;
* `Echo.Lines.move` — **a move keeps all lines sound and takes effort off the site**;
* `Echo.Orderly.connect`, `Echo.Lines.connect` — a peer connects.
-/

import Framewire.Proofs.EchoLines
import Mathlib.Algebra.Order.BigOperators.Group.Finset

set_option autoImplicit false

namespace Framewire

open Framewire.Frame

theorem Registry.current_withdraw {r : Registry} {id : Nat} {e : Enrolment}
    (he : r.enrolment? id = some e) (hcurrent : r.current.get? e.remote = some id) :
    (r.withdraw id).2.current = r.current.erase e.remote := by
  simp [withdraw, he, hcurrent]

namespace Echo

/-! ### Order on a site -/

/-- Connections were taken in in the order in which they came, under the next number each; those
that were not wait in this order; and every message in the queue is from one of the addresses. -/
structure Orderly (addresses : List Endpoint) (k : Site) : Prop where
  nodup : addresses.Nodup
  listener : (k.network.listener? 0).isSome = true
  sockets : k.network.sockets.length = 2 * addresses.length
  taken : k.registry.nextId ≤ addresses.length
  backlog : k.network.backlog 0 =
    (List.range' k.registry.nextId (addresses.length - k.registry.nextId)).map (2 * · + 1)
  attached : ∀ id, addresses.length ≤ id → k.hub.attached? id = none
  queued : ∀ m ∈ k.hub.queue.queue, m.remote ∈ addresses
  delivering : k.hub.queue.ended = false
  room : 0 < k.hub.queue.capacity

namespace Orderly

variable {addresses : List Endpoint} {k : Site}

/-- Whatever changes only sockets keeps the order. -/
theorem setNetwork (h : Orderly addresses k) {network : Network}
    (hlistener : network.listener? 0 = k.network.listener? 0)
    (hsockets : network.sockets.length = k.network.sockets.length) :
    Orderly addresses { k with network } where
  nodup := h.nodup
  listener := hlistener ▸ h.listener
  sockets := hsockets.trans h.sockets
  taken := h.taken
  backlog := by
    rw [← h.backlog, Network.backlog, Network.backlog]
    dsimp only
    rw [hlistener]
  attached := h.attached
  queued := h.queued
  delivering := h.delivering
  room := h.room

theorem modifySocket (h : Orderly addresses k) (id : Nat) (f : Socket → Socket) :
    Orderly addresses { k with network := k.network.modifySocket id f } :=
  h.setNetwork rfl (Network.length_modifySocket _ _ _)

/-- A change of enrolments that adds none keeps the order. -/
theorem setRegistry (h : Orderly addresses k) {registry : Registry}
    (hnext : registry.nextId = k.registry.nextId) : Orderly addresses { k with registry } where
  nodup := h.nodup
  listener := h.listener
  sockets := h.sockets
  taken := hnext ▸ h.taken
  backlog := hnext ▸ h.backlog
  attached := h.attached
  queued := h.queued
  delivering := h.delivering
  room := h.room

/-- A change of connections that attaches none keeps the order. -/
theorem setHub (h : Orderly addresses k) {hub : Hub}
    (hattached : ∀ id, k.hub.attached? id = none → hub.attached? id = none)
    (hqueued : ∀ m ∈ hub.queue.queue, m.remote ∈ addresses)
    (hdelivering : hub.queue.ended = k.hub.queue.ended)
    (hroom : hub.queue.capacity = k.hub.queue.capacity) : Orderly addresses { k with hub } where
  nodup := h.nodup
  listener := h.listener
  sockets := h.sockets
  taken := h.taken
  backlog := h.backlog
  attached id hid := hattached id (h.attached id hid)
  queued := hqueued
  delivering := hdelivering.trans h.delivering
  room := hroom ▸ h.room

theorem keep (h : Orderly addresses k) (id : Nat) (handler : Handler) :
    Orderly addresses (k.keep id handler) := by
  refine h.setHub (fun i hi => ?_) h.queued rfl rfl
  rw [Hub.attached?_setHandler, hi]
  split <;> rfl

theorem drop (h : Orderly addresses k) (id socket : Nat) :
    Orderly addresses (k.drop id socket) := by
  have hnext : ((k.registry.withdraw id).2.hangUp id).nextId = k.registry.nextId := by
    rw [Registry.hangUp, Registry.nextId_modify, Registry.nextId, Registry.enrolments_withdraw,
      Registry.nextId]
  have hattached : ∀ i, k.hub.attached? i = none → (k.hub.detach id).attached? i = none := by
    intro i hi
    rw [Hub.attached?_detach, hi]
    split <;> rfl
  exact ((h.setNetwork (Network.listener?_close _ _ _) (Network.length_close _ _)).setRegistry
    hnext).setHub hattached h.queued rfl rfl

/-- The connection that is taken in next. -/
theorem backlog_cons (h : Orderly addresses k) {socket : Nat} {rest : List Nat}
    (hbacklog : k.network.backlog 0 = socket :: rest) :
    k.registry.nextId < addresses.length ∧ socket = 2 * k.registry.nextId + 1 ∧
      rest = (List.range' (k.registry.nextId + 1)
        (addresses.length - (k.registry.nextId + 1))).map (2 * · + 1) := by
  have heq := h.backlog.symm.trans hbacklog
  obtain ⟨d, hd⟩ | hd : (∃ d, addresses.length - k.registry.nextId = d + 1) ∨
      addresses.length - k.registry.nextId = 0 := by
    cases addresses.length - k.registry.nextId with
    | zero => exact .inr rfl
    | succ d => exact .inl ⟨d, rfl⟩
  · rw [hd, List.range'_succ, List.map_cons, List.cons.injEq] at heq
    have hd' : addresses.length - (k.registry.nextId + 1) = d := by omega
    rw [hd']
    exact ⟨by omega, heq.1.symm, heq.2.symm⟩
  · rw [hd] at heq
    simp at heq

/-- When no connection waits, all were taken in. -/
theorem nextId_of_backlog (h : Orderly addresses k) (hbacklog : k.network.backlog 0 = []) :
    k.registry.nextId = addresses.length := by
  have heq := congrArg List.length (h.backlog.symm.trans hbacklog)
  rw [List.length_map, List.length_range'] at heq
  have := h.taken
  simp at heq
  omega

end Orderly

/-! ### All lines -/

/-- Every line of a site is sound. -/
def Lines (peers : List Peer) (k : Site) : Prop :=
  ∀ number p, peers[number]? = some p →
    p.socket = 2 * number ∧ Sound p number (line k number p.address)

/-- How much is left to do on all lines. -/
def effort (peers : List Peer) (k : Site) : Nat :=
  ∑ number ∈ Finset.range peers.length,
    (peers[number]?).elim 0 fun p => (line k number p.address).effort

variable {config : ServerConfig} {peers : List Peer} {p p' : Peer} {number now : Nat} {k k' : Site}
  {action : World.Action}

/-- Two sites have the same lines but for those of a number or an address. -/
def SameElsewhere (number : Nat) (address : Endpoint) (k k' : Site) : Prop :=
  ∀ other remote, other ≠ number → remote ≠ address → line k' other remote = line k other remote

theorem address_ne (hnodup : (peers.map Peer.address).Nodup) (hp : peers[number]? = some p)
    {other : Nat} {q : Peer} (hq : peers[other]? = some q) (hne : other ≠ number) :
    q.address ≠ p.address := by
  intro heq
  have hp' : (peers.map Peer.address)[number]? = some p.address := by
    rw [List.getElem?_map, hp, Option.map_some]
  have hq' : (peers.map Peer.address)[other]? = some p.address := by
    rw [List.getElem?_map, hq, Option.map_some, heq]
  have hlt := (List.getElem?_eq_some_iff.1 hq').1
  exact hne ((List.getElem?_inj hlt hnodup).1 (hq'.trans hp'.symm))

theorem map_address_set (hp : peers[number]? = some p) (haddress : p'.address = p.address) :
    (peers.set number p').map Peer.address = peers.map Peer.address := by
  refine List.ext_getElem? fun i => ?_
  rw [List.getElem?_map, List.getElem?_map, List.getElem?_set]
  split
  · next h =>
    subst h
    obtain ⟨hlt, -⟩ := List.getElem?_eq_some_iff.1 hp
    rw [if_pos hlt, hp, Option.map_some, Option.map_some, haddress]
  · rfl

theorem set_eq_self (hp : peers[number]? = some p) : peers.set number p = peers := by
  obtain ⟨hlt, rfl⟩ := List.getElem?_eq_some_iff.1 hp
  exact List.set_getElem_self hlt

/-- A site comes nearer to its end, in order and with all lines sound. -/
structure Advance (peers : List Peer) (k k' : Site) : Prop where
  orderly : Orderly (peers.map Peer.address) k'
  lines : Lines peers k'
  effort_lt : effort peers k' < effort peers k

namespace Lines

/-- Where one line changes and the others do not, all lines stay sound. -/
theorem change (h : Lines peers k) (hnodup : (peers.map Peer.address).Nodup)
    (hp : peers[number]? = some p) (hsocket : p'.socket = p.socket)
    (haddress : p'.address = p.address) (hsame : SameElsewhere number p.address k k')
    (hsound : Sound p' number (line k' number p.address)) : Lines (peers.set number p') k' := by
  intro other q hq
  rw [List.getElem?_set] at hq
  split at hq
  · next heq =>
    subst heq
    obtain ⟨hlt, -⟩ := List.getElem?_eq_some_iff.1 hp
    rw [if_pos hlt] at hq
    obtain rfl := Option.some.inj hq
    rw [hsocket, haddress]
    exact ⟨(h number p hp).1, hsound⟩
  · next hne =>
    rw [hsame other q.address (Ne.symm hne) (address_ne hnodup hp hq (Ne.symm hne))]
    exact h other q hq

/-- Where one line comes nearer to its end and the others do not change, so does the site. -/
theorem effort_lt (hnodup : (peers.map Peer.address).Nodup) (hp : peers[number]? = some p)
    (haddress : p'.address = p.address) (hsame : SameElsewhere number p.address k k')
    (hlt : (line k' number p.address).effort < (line k number p.address).effort) :
    effort (peers.set number p') k' < effort peers k := by
  obtain ⟨hnumber, -⟩ := List.getElem?_eq_some_iff.1 hp
  have hset : (peers.set number p')[number]? = some p' := by
    rw [List.getElem?_set, if_pos rfl, if_pos hnumber]
  rw [effort, effort, List.length_set]
  refine Finset.sum_lt_sum (fun other hother => ?_) ⟨number, Finset.mem_range.2 hnumber, ?_⟩
  · by_cases hne : other = number
    · subst hne
      rw [hset, hp, Option.elim_some, Option.elim_some, haddress]
      exact Nat.le_of_lt hlt
    · rw [List.getElem?_set, if_neg (Ne.symm hne)]
      cases hq : peers[other]? with
      | none => exact Nat.le_refl _
      | some q =>
          rw [Option.elim_some, Option.elim_some,
            hsame other q.address hne (address_ne hnodup hp hq hne)]
  · rw [hset, hp, Option.elim_some, Option.elim_some, haddress]
    exact hlt

/-- Where the server does something on one line, the site comes nearer to its end. -/
theorem step (h : Lines peers k) (hp : peers[number]? = some p)
    (ho : Orderly (peers.map Peer.address) k') (hsame : SameElsewhere number p.address k k')
    (hline : Sound p number (line k' number p.address) ∧
      (line k' number p.address).effort < (line k number p.address).effort) :
    Advance peers k k' := by
  have hchange := h.change ho.nodup hp rfl rfl hsame hline.1
  have heffort := effort_lt ho.nodup hp rfl hsame hline.2
  rw [set_eq_self hp] at hchange heffort
  exact ⟨ho, hchange, heffort⟩

/-- An attached connection is that of a peer that is served. -/
theorem served (h : Lines peers k) (ho : Orderly (peers.map Peer.address) k) {a : Attached}
    (ha : k.hub.attached? number = some a) :
    ∃ p t, peers[number]? = some p ∧ Served p number t (line k number p.address) ∧
      a = ⟨number, 2 * number + 1, t.handler⟩ := by
  have hlt : number < peers.length := by
    by_contra hge
    have := ho.attached number (by rw [List.length_map]; omega)
    simp [this] at ha
  refine ⟨peers[number], ?_⟩
  have hp : peers[number]? = some peers[number] := List.getElem?_eq_getElem hlt
  cases (h number _ hp).2 with
  | waiting hw =>
      have := hw.attached
      rw [line, ha] at this
      simp at this
  | served t hs =>
      have := hs.attached
      rw [line, ha] at this
      exact ⟨t, hp, hs, Option.some.inj this⟩
  | gone hg =>
      have := hg.attached
      rw [line, ha] at this
      simp at this

/-- What is waiting for the sink is from a peer that is served. -/
theorem served_of_queued (h : Lines peers k) (ho : Orderly (peers.map Peer.address) k)
    {message : Message} {rest : List Message} (hqueue : k.hub.queue.queue = message :: rest) :
    ∃ number p t, peers[number]? = some p ∧ message.remote = p.address ∧
      Served p number t (line k number p.address) ∧
      (line k number p.address).queued = message :: rest.filter (·.remote = p.address) := by
  have hmem := ho.queued message (by rw [hqueue]; exact List.mem_cons_self)
  obtain ⟨p, hp, hremote⟩ := List.mem_map.1 hmem
  obtain ⟨number, hp⟩ := List.mem_iff_getElem?.1 hp
  have hqueued : (line k number p.address).queued =
      message :: rest.filter (·.remote = p.address) := by
    rw [line, hqueue, List.filter_cons, if_pos (by simp [hremote])]
  refine ⟨number, p, ?_⟩
  cases (h number p hp).2 with
  | waiting hw => simp [hw.queued] at hqueued
  | served t hs => exact ⟨t, hp, hremote.symm, hs, hqueued⟩
  | gone hg => simp [hg.queued] at hqueued

/-- The connection that is taken in next is still waiting. -/
theorem waiting (h : Lines peers k) (hp : peers[k.registry.nextId]? = some p) :
    Waiting p k.registry.nextId (line k k.registry.nextId p.address) := by
  have hnone : (line k k.registry.nextId p.address).enrolment = none :=
    List.getElem?_eq_none (Nat.le_refl _)
  cases (h _ p hp).2 with
  | waiting hw => exact hw
  | served t hs => simp [hs.enrolment] at hnone
  | gone hg => exact absurd hnone hg.enrolment

/-- The socket of a peer that is served. -/
theorem socket_of_served {t : Traffic} (hs : Served p number t (line k number p.address)) :
    ∃ s, k.network.socket? (2 * number + 1) = some s ∧ Joined s (2 * number) t.unread ∧
      s.ending = if p.isOpen then none else some .finished := by
  obtain ⟨s, hfar, hjoined, -, hending⟩ := hs.sockets.far
  exact ⟨s, hfar, hjoined, hending⟩

/-- What is sent to a peer that is served goes to its queue. -/
theorem send_of_served {t : Traffic} (hs : Served p number t (line k number p.address))
    {message : Message} (hremote : message.remote = p.address) :
    (k.registry.send message).2 =
      k.registry.modify number fun e => { e with queue := e.queue ++ [message.payload] } := by
  have hcurrent : k.registry.current.get? message.remote = some number := by
    rw [hremote]
    exact hs.current
  rcases k.registry.send_cases message with ⟨id, e, hid, -, -, hsend⟩ | ⟨-, hnot⟩
  · obtain rfl := Option.some.inj (hcurrent.symm.trans hid)
    rw [hsend]
  · simpa using hnot number _ hcurrent hs.enrolment

/-- A payload that is found in the queue of a peer that is served is the first one. -/
theorem receive_of_served {t : Traffic} (hs : Served p number t (line k number p.address))
    {payload : Bytes} (hreceive : (k.registry.receive number).1 = .payload payload) :
    ∃ rest, t.outbound = payload :: rest ∧ (k.registry.receive number).2 =
      k.registry.modify number fun e => { e with queue := rest } := by
  have henrolment : k.registry.enrolment? number = some ⟨p.address, t.outbound, true⟩ :=
    hs.enrolment
  rcases k.registry.receive_cases number with ⟨e, payload', rest, he, hqueue, heq⟩ | ⟨hnil, -⟩
  · obtain rfl := Option.some.inj (henrolment.symm.trans he)
    rw [heq] at hreceive
    obtain rfl := Receipt.payload.inj hreceive
    exact ⟨rest, hqueue, by rw [heq]⟩
  · rw [hreceive] at hnil
    simp [Receipt.payloads] at hnil

/-! ### Moves of the server -/

/-- The server takes a connection in. -/
theorem accept (h : Lines peers k) (ho : Orderly (peers.map Peer.address) k) {socket : Nat}
    {network : Network} {remote : Endpoint}
    (haccept : k.network.accept 0 = some (socket, network))
    (hremote : remote = ((network.socket? socket).map (·.there)).getD .unbound) :
    let k' : Site := ⟨network, (k.registry.enrol remote).2,
      k.hub.attach k.registry.nextId socket (.new remote config.idleTimeout now)⟩
    Advance peers k k' := by
  intro k'
  obtain ⟨rest, hbacklog, rfl⟩ := Network.accept_eq_some_iff.1 haccept
  obtain ⟨hlt, rfl, hrest⟩ := ho.backlog_cons hbacklog
  have hnext : k'.registry.nextId = k.registry.nextId + 1 := List.length_append
  obtain ⟨p, hp⟩ : ∃ p, peers[k.registry.nextId]? = some p := by
    rw [List.length_map] at hlt
    exact ⟨_, List.getElem?_eq_getElem hlt⟩
  have hwaiting := h.waiting hp
  obtain ⟨s, hs, -, hthere, -⟩ := hwaiting.sockets.far
  obtain rfl : remote = p.address := by
    have hs' : k.network.socket? (2 * k.registry.nextId + 1) = some s := hs
    change remote = ((k.network.socket? (2 * k.registry.nextId + 1)).map (·.there)).getD .unbound
      at hremote
    rw [hremote, hs', ← hthere]
    rfl
  refine h.step hp ?_ ?_ ?_
  · refine ⟨ho.nodup, ?_, ho.sockets, by omega, ?_, fun id hid => ?_, ho.queued, ho.delivering,
      ho.room⟩
    · rw [Network.listener?_modifyListener, Option.isSome_map]
      exact ho.listener
    · rw [Network.backlog_accept hbacklog, hnext]
      exact hrest
    · rw [Hub.attached?_attach, ho.attached id hid, if_neg (by omega)]
      rfl
  · intro other remote hother hne
    have henrolment : k'.registry.enrolment? other = k.registry.enrolment? other := by
      rw [Registry.enrolment?_enrol, if_neg hother]
    have hcurrent : k'.registry.current.get? remote = k.registry.current.get? remote := by
      change (k.registry.current.insert _ _).get? remote = _
      rw [Directory.get?_insert, if_neg hne]
    have hattached : k'.hub.attached? other = k.hub.attached? other := by
      rw [Hub.attached?_attach, if_neg (Ne.symm hother), Option.or_none]
    rw [line, henrolment, hcurrent, hattached]
    rfl
  · have hattached : k.hub.attached? k.registry.nextId = none := hwaiting.attached
    have hline : line k' k.registry.nextId p.address =
        { line k k.registry.nextId p.address with
          enrolment := some { remote := p.address }
          current := some k.registry.nextId
          attached := some ⟨k.registry.nextId, 2 * k.registry.nextId + 1,
            .new p.address config.idleTimeout now⟩ } := by
      have hcurrent : k'.registry.current.get? p.address = some k.registry.nextId := by
        change (k.registry.current.insert _ _).get? p.address = _
        rw [Directory.get?_insert, if_pos rfl]
      rw [line, Registry.enrolment?_enrol, if_pos rfl, Hub.attached?_attach, hattached, if_pos rfl,
        hcurrent]
      rfl
    rw [hline]
    exact hwaiting.accept _

/-- A handler reads a chunk. -/
theorem chunk (h : Lines peers k) (ho : Orderly (peers.map Peer.address) k) {id most : Nat}
    {a : Attached} {bytes : Bytes} {network : Network} (ha : k.hub.selecting? id = some a)
    (hread : k.network.read a.socket most = (.bytes bytes, network)) (hbytes : bytes ≠ []) :
    let k' := { k with network }.keep id (a.handler.receive now bytes)
    Advance peers k k' := by
  intro k'
  obtain ⟨ha, hundelivered⟩ := Hub.selecting?_eq_some_iff.1 ha
  obtain ⟨p, t, hp, hs, rfl⟩ := h.served ho ha
  obtain ⟨s, hsocket, hjoined, -⟩ := socket_of_served hs
  obtain ⟨rfl, rfl⟩ := Network.of_read_bytes hsocket hread
  refine h.step hp ((ho.modifySocket _ _).keep _ _) ?_ ?_
  · intro other remote hother _
    have hnear : ¬2 * id + 1 = 2 * other := by omega
    have hfar : ¬2 * id + 1 = 2 * other + 1 := by omega
    simp only [line, k', Site.keep, Hub.attached?_setHandler, Network.socket?_modifySocket, hnear,
      hfar, Ne.symm hother, if_false]
    rfl
  · have hline : line k' id p.address =
        { line k id p.address with
          attached := some ⟨id, 2 * id + 1, t.handler.receive now (t.unread.take most)⟩
          far := (line k id p.address).far.map fun s =>
            { s with arrived := s.arrived.drop most } } := by
      have hnear : ¬2 * id + 1 = 2 * id := by omega
      simp only [line, k', Site.keep, Hub.attached?_setHandler, Network.socket?_modifySocket, hnear,
        if_false, if_true, ha, Option.map_some, hsocket, hjoined.arrived]
      rfl
    rw [hline]
    rw [hjoined.arrived] at hbytes
    exact hs.chunk hundelivered most hbytes

/-- A handler hands a message to the queue of the sink. -/
theorem dispatch (h : Lines peers k) (ho : Orderly (peers.map Peer.address) k) {id : Nat}
    {hub : Hub} (hdispatch : k.hub.dispatch id = some hub) :
    let k' := { k with hub }
    Advance peers k k' := by
  intro k'
  obtain ⟨a, message, rest, ha, hundelivered, -, -, rfl⟩ := Hub.dispatch_eq_some_iff.1 hdispatch
  obtain ⟨p, t, hp, hs, rfl⟩ := h.served ho ha
  obtain ⟨hremote, hline⟩ := hs.dispatch hundelivered
  have hqueued : ∀ remote, k'.hub.queue.queue.filter (·.remote = remote) =
      k.hub.queue.queue.filter (·.remote = remote) ++
        if remote = p.address then [message] else [] := by
    intro remote
    change (k.hub.queue.queue ++ [message]).filter _ = _
    rw [List.filter_append, List.filter_singleton, hremote]
    congr 1
    simp [eq_comm]
  refine h.step hp ?_ ?_ ?_
  · refine ho.setHub (fun i hi => ?_) (fun m hm => ?_) rfl rfl
    · rw [Hub.attached?] at hi
      change (k.hub.setHandler id _).attached? i = none
      rw [Hub.attached?_setHandler, Hub.attached?, hi]
      split <;> rfl
    · rcases List.mem_append.1 hm with hm | hm
      · exact ho.queued m hm
      · rw [List.mem_singleton.1 hm, hremote]
        exact List.mem_map_of_mem (List.mem_of_getElem? hp)
  · intro other remote hother hne
    have hattached : k'.hub.attached? other = k.hub.attached? other := by
      change (k.hub.setHandler id _).attached? other = _
      rw [Hub.attached?_setHandler, if_neg (Ne.symm hother)]
    rw [line, hattached, hqueued, if_neg hne, List.append_nil]
    rfl
  · have hattached : k'.hub.attached? id =
        some ⟨id, 2 * id + 1, { t.handler with undelivered := rest }⟩ := by
      change (k.hub.setHandler id _).attached? id = _
      rw [Hub.attached?_setHandler, if_pos rfl, ha]
      rfl
    rw [line, hattached, hqueued, if_pos rfl]
    exact hline

/-- The sink gets a message and sends it back. -/
theorem deliver (h : Lines peers k) (ho : Orderly (peers.map Peer.address) k) {message : Message}
    {rest : List Message} (hqueue : k.hub.queue.queue = message :: rest) :
    let k' := { k with
      registry := (k.registry.send message).2
      hub := { k.hub with queue := k.hub.queue.deliver fun _ => none } }
    Advance peers k k' := by
  obtain ⟨number, p, t, hp, hremote, hs, hqueued⟩ := h.served_of_queued ho hqueue
  have henrolment : k.registry.enrolment? number = some ⟨p.address, t.outbound, true⟩ :=
    hs.enrolment
  rw [send_of_served hs hremote, SinkQueue.deliver_of_taken hqueue rfl]
  intro k'
  refine h.step hp ?_ ?_ ?_
  · refine (ho.setRegistry (Registry.nextId_modify ..)).setHub (fun _ hi => hi) (fun m hm => ?_)
      rfl rfl
    exact ho.queued m (by rw [hqueue]; exact List.mem_cons_of_mem _ hm)
  · intro other remote hother hne
    have hrest : rest.filter (·.remote = remote) =
        k.hub.queue.queue.filter (·.remote = remote) := by
      rw [hqueue, List.filter_cons, if_neg]
      simp [hremote, Ne.symm hne]
    rw [line, Registry.enrolment?_modify, if_neg (Ne.symm hother)]
    change Line.mk _ _ _ (rest.filter _) _ _ = _
    rw [hrest]
    rfl
  · have hline : line k' number p.address =
        { line k number p.address with
          enrolment := some ⟨p.address, t.outbound ++ [message.payload], true⟩
          queued := rest.filter (·.remote = p.address) } := by
      rw [line, Registry.enrolment?_modify, if_pos rfl, henrolment]
      rfl
    rw [hline]
    exact hs.deliver hqueued

/-- A handler writes a payload. -/
theorem written (h : Lines peers k) (ho : Orderly (peers.map Peer.address) k) (now : Nat) {id : Nat}
    {a : Attached} {payload : Bytes} {outcome : WriteOutcome} {network : Network}
    (ha : k.hub.selecting? id = some a)
    (hreceive : (k.registry.receive id).1 = .payload payload)
    (hwrite : k.network.write a.socket payload = (outcome, network)) :
    outcome = .complete ∧
      let k' := { k with network, registry := (k.registry.receive id).2 }.keep id
        (a.handler.write now payload outcome).handler
      Advance peers k k' := by
  obtain ⟨ha, -⟩ := Hub.selecting?_eq_some_iff.1 ha
  obtain ⟨p, t, hp, hs, rfl⟩ := h.served ho ha
  have henrolment : k.registry.enrolment? id = some ⟨p.address, t.outbound, true⟩ := hs.enrolment
  obtain ⟨rest, houtbound, hregistry⟩ := receive_of_served hs hreceive
  have hopen := hs.isOpen_of_outbound (by simp [houtbound])
  obtain ⟨s, hsocket, hjoined, -⟩ := socket_of_served hs
  obtain ⟨s', hsocket', hjoined'⟩ := hs.sockets.near hopen
  have htwin : k.network.socket? s.twin = some s' := by
    rw [hjoined.twin]
    exact hsocket'
  rw [Network.write_of_open hsocket hjoined.isOpen hjoined.writable htwin hjoined'.isOpen,
    hjoined.twin, Prod.mk.injEq] at hwrite
  obtain ⟨rfl, rfl⟩ := hwrite
  refine ⟨rfl, ?_⟩
  intro k'
  have hhandler : (t.handler.write now payload .complete).handler =
      { t.handler with timer := t.handler.timer.touch now } := by
    cases payload <;> rfl
  have hnext : (k.registry.receive id).2.nextId = k.registry.nextId := by
    rw [hregistry, Registry.nextId_modify]
  refine h.step hp (((ho.modifySocket _ _).setRegistry hnext).keep _ _) ?_ ?_
  · intro other remote hother _
    have hnear : ¬2 * id = 2 * other := by omega
    have hfar : ¬2 * id = 2 * other + 1 := by omega
    simp only [line, k', Site.keep, Hub.attached?_setHandler, Network.socket?_modifySocket, hnear,
      hfar, Ne.symm hother, if_false, hregistry, Registry.enrolment?_modify]
    rfl
  · have hline : line k' id p.address =
        { line k id p.address with
          enrolment := some ⟨p.address, rest, true⟩
          attached := some ⟨id, 2 * id + 1, { t.handler with
            timer := t.handler.timer.touch now }⟩
          near := (line k id p.address).near.map fun s =>
            { s with arrived := s.arrived ++ payload } } := by
      have hfar : ¬2 * id = 2 * id + 1 := by omega
      simp only [line, k', Site.keep, Hub.attached?_setHandler, Network.socket?_modifySocket, hfar,
        if_false, if_true, ha, Option.map_some, hregistry, Registry.enrolment?_modify, henrolment,
        hhandler]
      rfl
    rw [hline]
    exact hs.written houtbound

/-- A handler finds the end of its stream. -/
theorem streamEnd (h : Lines peers k) (ho : Orderly (peers.map Peer.address) k) {id : Nat}
    {a : Attached} (ha : k.hub.attached? id = some a) {s : Socket}
    (hsocket : k.network.socket? a.socket = some s) (harrived : s.arrived = [])
    (hending : s.ending ≠ none) :
    let k' := k.drop id a.socket
    Advance peers k k' := by
  intro k'
  obtain ⟨p, t, hp, hs, rfl⟩ := h.served ho ha
  obtain ⟨s', hsocket', hjoined, hending'⟩ := socket_of_served hs
  obtain rfl := Option.some.inj (hsocket.symm.trans hsocket')
  have hopen : p.isOpen = false := by
    by_contra hopen
    rw [hending', if_pos (by simpa using hopen)] at hending
    exact hending rfl
  have henrolment : k.registry.enrolment? id = some ⟨p.address, t.outbound, true⟩ := hs.enrolment
  have hcurrent : (k.registry.withdraw id).2.current = k.registry.current.erase p.address :=
    Registry.current_withdraw henrolment hs.current
  have henrolments : ∀ other, (k.registry.withdraw id).2.enrolment? other =
      k.registry.enrolment? other := by
    intro other
    rw [Registry.enrolment?, Registry.enrolments_withdraw, Registry.enrolment?]
  have hsockets := Network.socket?_close hsocket hjoined.isOpen hjoined.writable harrived
    (by rw [hjoined.twin]; dsimp only; omega)
  rw [hjoined.twin] at hsockets
  refine h.step hp (ho.drop _ _) ?_ ?_
  · intro other remote hother hne
    have hnear : 2 * other ≠ 2 * id + 1 ∧ 2 * other ≠ 2 * id := by omega
    have hfar : 2 * other + 1 ≠ 2 * id + 1 ∧ 2 * other + 1 ≠ 2 * id := by omega
    simp only [line, k', Site.drop, hsockets, hnear, hfar, if_false, Hub.attached?_detach,
      Ne.symm hother, Registry.hangUp, Registry.enrolment?_modify, henrolments]
    congr 1
    change (k.registry.withdraw id).2.current.get? remote = _
    rw [hcurrent, Directory.get?_erase, if_neg hne]
  · have hnear : ¬2 * id = 2 * id + 1 := by omega
    have hline : line k' id p.address = ⟨some ⟨p.address, [], false⟩, none, none,
        (line k id p.address).queued,
        (line k id p.address).near.map fun s =>
          { s with ending := some (s.ending.getD .finished) },
        some { s with twin := 2 * id, writable := false, isOpen := false }⟩ := by
      simp only [line, k', Site.drop, hsockets, hnear, if_false, if_true, Hub.attached?_detach,
        Registry.hangUp, Registry.enrolment?_modify, henrolments, henrolment, Option.map_some]
      congr 1
      change (k.registry.withdraw id).2.current.get? p.address = none
      rw [hcurrent, Directory.get?_erase, if_pos rfl]
    rw [hline]
    refine hs.streamEnd hopen rfl _ ?_ ?_
    · cases (line k id p.address).near <;> rfl
    · rw [show (line k id p.address).far = some s from hsocket]
      rfl

/-- A handler reads bytes, or nothing is left to read and its socket says why. -/
theorem read_spec (h : Lines peers k) (ho : Orderly (peers.map Peer.address) k) {id most : Nat}
    {a : Attached} (ha : k.hub.attached? id = some a) {reading : Network.Reading}
    {network : Network} (hread : k.network.read a.socket most = (reading, network))
    (hbytes : ∀ bytes, reading ≠ .bytes bytes) :
    ∃ s, k.network.socket? a.socket = some s ∧ s.arrived = [] ∧
      (reading ≠ .nothing → s.ending ≠ none) ∧ network = k.network := by
  obtain ⟨p, t, hp, hs, rfl⟩ := h.served ho ha
  obtain ⟨s, hsocket, -⟩ := socket_of_served hs
  by_cases harrived : s.arrived = []
  · rw [Network.read_of_empty hsocket harrived, Prod.mk.injEq] at hread
    obtain ⟨rfl, rfl⟩ := hread
    refine ⟨s, hsocket, harrived, fun hreading hending => ?_, rfl⟩
    rw [hending] at hreading
    exact hreading rfl
  · rw [Network.read_of_arrived hsocket harrived, Prod.mk.injEq] at hread
    exact absurd hread.1.symm (hbytes _)

/-- The queue of a connection is never seen as closed. -/
theorem receive_ne_closed (h : Lines peers k) (ho : Orderly (peers.map Peer.address) k) {id : Nat}
    {a : Attached} (ha : k.hub.attached? id = some a) :
    (k.registry.receive id).1 ≠ .closed := by
  obtain ⟨p, t, hp, hs, rfl⟩ := h.served ho ha
  have henrolment : k.registry.enrolment? id = some ⟨p.address, t.outbound, true⟩ := hs.enrolment
  have hcurrent : k.registry.current.get? p.address = some id := hs.current
  rw [Ne, Registry.receive_eq_closed_iff henrolment, Registry.isCurrent, henrolment]
  simp [hcurrent]

/-- **A move keeps all lines sound**, and unless only time passes it takes effort off the site. -/
theorem move (h : Lines peers k) (ho : Orderly (peers.map Peer.address) k)
    (hmove : Move config now k action k') (hcalm : ∀ node id, action ≠ .expire node id) :
    Orderly (peers.map Peer.address) k' ∧ Lines peers k' ∧
      ((∃ ms, action = .pass ms) ∧ k' = k ∨ effort peers k' < effort peers k) := by
  have hwork : ∀ {k'}, Advance peers k k' → Orderly (peers.map Peer.address) k' ∧ Lines peers k' ∧
      ((∃ ms, action = .pass ms) ∧ k' = k ∨ effort peers k' < effort peers k) :=
    fun hadvance => ⟨hadvance.orderly, hadvance.lines, .inr hadvance.effort_lt⟩
  cases hmove with
  | accept haccept hremote => exact hwork (h.accept ho haccept hremote)
  | chunk ha hread hbytes => exact hwork (h.chunk ho ha hread hbytes)
  | streamEnd ha hread =>
      have hattached := (Hub.selecting?_eq_some_iff.1 ha).1
      obtain ⟨s, hs, harrived, hending, rfl⟩ := h.read_spec ho hattached hread (by simp)
      exact hwork (h.streamEnd ho hattached hs harrived (by simpa using hending))
  | readFailed ha hread =>
      have hattached := (Hub.selecting?_eq_some_iff.1 ha).1
      obtain ⟨s, hs, harrived, hending, rfl⟩ := h.read_spec ho hattached hread (by simp)
      exact hwork (h.streamEnd ho hattached hs harrived (by simpa using hending))
  | dispatch hdispatch => exact hwork (h.dispatch ho hdispatch)
  | written ha hreceive hwrite _ => exact hwork (h.written ho now ha hreceive hwrite).2
  | writeFailed ha hreceive hwrite hended =>
      obtain ⟨rfl, -⟩ := h.written ho now ha hreceive hwrite
      exact absurd rfl hended
  | unqueued ha hreceive =>
      exact absurd hreceive (h.receive_ne_closed ho (Hub.selecting?_eq_some_iff.1 ha).1)
  | expired ha hexpired => exact absurd rfl (hcalm 0 _)
  | deliver hqueue => exact hwork (h.deliver ho hqueue)
  | pass ms => exact ⟨ho, h, .inl ⟨⟨ms, rfl⟩, rfl⟩⟩

/-! ### What peers do -/

/-- Both sockets of a peer that keeps its connection. -/
theorem sockets (h : Lines peers k) (hp : peers[number]? = some p) (hopen : p.isOpen = true) :
    ∃ near far unread back, k.network.socket? (2 * number) = some near ∧
      Joined near (2 * number + 1) back ∧
      k.network.socket? (2 * number + 1) = some far ∧ Joined far (2 * number) unread ∧
      (Longest p.sent p.got → back = []) := by
  obtain ⟨unread, back, hsockets, hback⟩ := (h number p hp).2.sockets hopen
  obtain ⟨near, hnear, hjoined⟩ := hsockets.near hopen
  obtain ⟨far, hfar, hjoined', -⟩ := hsockets.far
  exact ⟨near, far, unread, back, hnear, hjoined, hfar, hjoined', hback⟩

/-- A peer writes a chunk. -/
theorem send (h : Lines peers k) (ho : Orderly (peers.map Peer.address) k)
    (hp : peers[number]? = some p) (hopen : p.isOpen = true) (chunk : Bytes) :
    let k' := { k with network := (k.network.write (2 * number) chunk).2 }
    Orderly (peers.map Peer.address) k' ∧
      Lines (peers.set number { p with sent := p.sent ++ chunk }) k' := by
  obtain ⟨near, far, unread, back, hnear, hjoined, hfar, hjoined', -⟩ := h.sockets hp hopen
  have htwin : k.network.socket? near.twin = some far := by rw [hjoined.twin, hfar]
  rw [Network.write_of_open hnear hjoined.isOpen hjoined.writable htwin hjoined'.isOpen,
    hjoined.twin]
  intro k'
  refine ⟨ho.modifySocket _ _, h.change ho.nodup hp rfl rfl ?_ ?_⟩
  · intro other remote hother _
    have hne : ¬2 * number + 1 = 2 * other := by omega
    have hne' : ¬2 * number + 1 = 2 * other + 1 := by omega
    simp only [line, k', Network.socket?_modifySocket, hne, hne', if_false]
  · have hline : line k' number p.address =
        { line k number p.address with
          far := (line k number p.address).far.map fun s =>
            { s with arrived := s.arrived ++ chunk } } := by
      have hne : ¬2 * number + 1 = 2 * number := by omega
      simp only [line, k', Network.socket?_modifySocket, hne, if_false, if_true]
    rw [hline]
    exact (h number p hp).2.send hopen chunk

/-- A peer reads some of what has arrived. -/
theorem receive (h : Lines peers k) (ho : Orderly (peers.map Peer.address) k)
    (hp : peers[number]? = some p) (hopen : p.isOpen = true) {count : Nat} {bytes : Bytes}
    {network : Network} (hread : k.network.read (2 * number) count = (.bytes bytes, network))
    (hbytes : bytes ≠ []) :
    let k' := { k with network }
    let peers' := peers.set number { p with got := p.got ++ bytes }
    Orderly (peers.map Peer.address) k' ∧ Lines peers' k' ∧ effort peers' k' < effort peers k := by
  intro k' peers'
  obtain ⟨near, far, unread, back, hnear, -, -, -, -⟩ := h.sockets hp hopen
  obtain ⟨rfl, rfl⟩ := Network.of_read_bytes hnear hread
  have hsame : SameElsewhere number p.address k k' := by
    intro other remote hother _
    have hne : ¬2 * number = 2 * other := by omega
    have hne' : ¬2 * number = 2 * other + 1 := by omega
    simp only [line, k', Network.socket?_modifySocket, hne, hne', if_false]
  have hline : line k' number p.address =
      { line k number p.address with
        near := (line k number p.address).near.map fun s =>
          { s with arrived := s.arrived.drop count } } := by
    have hne : ¬2 * number = 2 * number + 1 := by omega
    simp only [line, k', Network.socket?_modifySocket, hne, if_false, if_true, hnear,
      Option.map_some]
  obtain ⟨hsound, hlt⟩ := (h number p hp).2.receive hopen hnear count hbytes
  refine ⟨ho.modifySocket _ _, h.change ho.nodup hp rfl rfl hsame ?_,
    effort_lt ho.nodup hp rfl hsame ?_⟩
  · rw [hline]
    exact hsound
  · rw [hline]
    exact hlt

/-- A peer that has read the frames that it sent leaves. -/
theorem leave (h : Lines peers k) (ho : Orderly (peers.map Peer.address) k)
    (hp : peers[number]? = some p) (hopen : p.isOpen = true) (hlongest : Longest p.sent p.got) :
    let k' := { k with network := k.network.close (2 * number) }
    Orderly (peers.map Peer.address) k' ∧
      Lines (peers.set number { p with isOpen := false }) k' := by
  intro k'
  obtain ⟨near, far, unread, back, hnear, hjoined, -, -, hback⟩ := h.sockets hp hopen
  have harrived : near.arrived = [] := hjoined.arrived.trans (hback hlongest)
  have hsockets := Network.socket?_close hnear hjoined.isOpen hjoined.writable harrived
    (by rw [hjoined.twin]; omega)
  rw [hjoined.twin] at hsockets
  refine ⟨ho.setNetwork (Network.listener?_close _ _ _) (Network.length_close _ _),
    h.change ho.nodup hp rfl rfl ?_ ?_⟩
  · intro other remote hother _
    have hnear : 2 * other ≠ 2 * number ∧ 2 * other ≠ 2 * number + 1 := by omega
    have hfar : 2 * other + 1 ≠ 2 * number ∧ 2 * other + 1 ≠ 2 * number + 1 := by omega
    simp only [line, k', hsockets, hnear, hfar, if_false]
  · have hline : line k' number p.address =
        { line k number p.address with
          near := some { near with
            twin := 2 * number + 1, writable := false, isOpen := false }
          far := (line k number p.address).far.map fun s =>
            { s with ending := some (s.ending.getD .finished) } } := by
      have hne : ¬2 * number + 1 = 2 * number := by omega
      simp only [line, k', hsockets, hne, if_false, if_true]
    rw [hline]
    exact (h number p hp).2.leave hopen hlongest _

end Lines

/-- A peer with a new address connects. -/
theorem Orderly.connect {addresses : List Endpoint} (h : Orderly addresses k) {address : Endpoint}
    (hnew : address ∉ addresses) (there : Endpoint) :
    Orderly (addresses ++ [address])
      { k with network := (k.network.connect 0 address there).2 } where
  nodup := List.nodup_append.2 ⟨h.nodup, List.nodup_singleton _, by
    intro a ha b hb heq
    rw [List.mem_singleton.1 hb] at heq
    exact hnew (heq ▸ ha)⟩
  listener := by
    rw [Network.connect, Network.listener?_modifyListener, Option.isSome_map]
    exact h.listener
  sockets := by
    rw [Network.length_connect, h.sockets, List.length_append, List.length_singleton]
    omega
  taken := by
    rw [List.length_append]
    exact Nat.le_trans h.taken (Nat.le_add_right _ _)
  backlog := by
    have hlength : (addresses ++ [address]).length - k.registry.nextId =
        addresses.length - k.registry.nextId + 1 := by
      have := h.taken
      rw [List.length_append, List.length_singleton]
      omega
    have hlast : k.registry.nextId + (addresses.length - k.registry.nextId) = addresses.length := by
      have := h.taken
      omega
    rw [Network.backlog_connect h.listener, h.backlog, h.sockets, hlength, List.range'_concat,
      List.map_append, Nat.one_mul, hlast]
    rfl
  attached id hid := by
    rw [List.length_append] at hid
    exact h.attached id (by omega)
  queued m hm := List.mem_append_left _ (h.queued m hm)
  delivering := h.delivering
  room := h.room

theorem Lines.connect (h : Lines peers k) (ho : Orderly (peers.map Peer.address) k)
    {address : Endpoint} (hnew : address ∉ peers.map Peer.address) (there : Endpoint) :
    Lines (peers ++ [{ address, socket := (k.network.connect 0 address there).1 }])
      { k with network := (k.network.connect 0 address there).2 } := by
  have hlength : k.network.sockets.length = 2 * peers.length := by
    rw [ho.sockets, List.length_map]
  have hsocket : (k.network.connect 0 address there).1 = 2 * peers.length := hlength
  intro number p hp
  rcases Nat.lt_or_ge number peers.length with hlt | hge
  · -- the peers that were there keep their lines
    rw [List.getElem?_append_left hlt] at hp
    obtain ⟨hsocket, hsound⟩ := h number p hp
    refine ⟨hsocket, ?_⟩
    have hnear : 2 * number ≠ 2 * peers.length ∧ 2 * number ≠ 2 * peers.length + 1 := by omega
    have hfar : 2 * number + 1 ≠ 2 * peers.length ∧ 2 * number + 1 ≠ 2 * peers.length + 1 := by
      omega
    simp only [line, Network.socket?_connect, hlength, hnear, hfar, if_false]
    exact hsound
  · rw [List.getElem?_append_right hge] at hp
    obtain ⟨hzero, rfl⟩ : number - peers.length = 0 ∧
        ({ address, socket := (k.network.connect 0 address there).1 } : Peer) = p := by
      cases hsub : number - peers.length with
      | zero =>
          rw [hsub] at hp
          exact ⟨rfl, Option.some.inj hp⟩
      | succ d =>
          rw [hsub] at hp
          simp at hp
    obtain rfl : number = peers.length := by omega
    refine ⟨hsocket, .waiting ?_⟩
    have htaken := ho.taken
    rw [List.length_map] at htaken
    have hqueued : k.hub.queue.queue.filter (·.remote = address) = [] := by
      rw [List.filter_eq_nil_iff]
      intro m hm heq
      exact hnew (of_decide_eq_true heq ▸ ho.queued m hm)
    have hne : ¬2 * peers.length + 1 = 2 * peers.length := by omega
    refine ⟨List.getElem?_eq_none htaken, ho.attached _ (by rw [List.length_map]), hqueued,
      ⟨?_, ?_⟩, rfl, fun hclosed => ?_⟩
    · intro _
      simp only [line, Network.socket?_connect, hlength, if_true]
      exact ⟨_, rfl, rfl, rfl, rfl, rfl⟩
    · simp only [line, Network.socket?_connect, hlength, hne, if_false, if_true]
      exact ⟨_, rfl, ⟨rfl, rfl, rfl, rfl⟩, rfl, rfl⟩
    · simp at hclosed

end Echo

end Framewire
