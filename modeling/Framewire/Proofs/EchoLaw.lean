/-
**The echo law.**

Peers connect to a server that sends every message back.  They write what they like, in pieces of
any size, and read what comes back, while the server accepts, reads, delivers and writes in any
order; a peer leaves only when it has read its replies.  Then a peer reads back the frames that it
sent, and nothing else: what it has read is at any time a beginning of them, and when there is
nothing left to do it is all of them.  There is nothing left to do after a bounded number of steps.

Main definitions:

* `Echo.Scene`, `Echo.Step`, `Echo.Scene.step`, `Echo.Scene.run` — a server with its peers, and
  what can happen;
* `Echo.Scene.Undisturbed` — addresses are distinct, nobody leaves too early, and no connection is
  closed for being idle;
* `Echo.Step.IsWork`, `Echo.Scene.AtRest` — the steps that bring replies nearer to the peers, and a
  scene in which none of them is possible.

Main results:

* `Echo.Scene.Good.step`, `Echo.Scene.good_run` — lines stay sound, step by step and in every run;
* `Echo.Scene.Good.longest` — at rest every peer has read its frames;
* `Echo.peers_read_their_own_frames` — **the echo law**.
-/

import Framewire.Proofs.EchoSites
import Framewire.Proofs.Stillness

set_option autoImplicit false

namespace Framewire

open Framewire.Frame

/-- The listener of a running server, and the endpoint at which it listens. -/
def World.listening? (w : World) (node : Nat) : Option (Nat × Endpoint) := do
  let n ← w.node? node
  match n.machine with
  | .server s => s.life.running.map fun round => (round.listener, round.address)
  | _ => none

/-- What a server works on that is alone in a world and runs. -/
def World.site? (w : World) : Option Site :=
  match w.nodes with
  | [⟨.server s, _⟩] => s.life.running.map fun round => ⟨w.network, s.registry, round.hub⟩
  | _ => none

theorem Serving.site?_eq {config : ServerConfig} {w : World} {k : Site}
    (h : Serving config w k) : w.site? = some k := by
  obtain ⟨address, received, hnodes⟩ := h.nodes
  rw [World.site?, hnodes, h.network]
  rfl

namespace Echo

/-! ### Scenes -/

/-- A server in a world, and its peers in the order in which they connected. -/
structure Scene where
  world : World
  /-- the number of the server -/
  server : Nat
  peers : List Peer := []

/-- What can happen in a scene. -/
inductive Step where
  /-- a peer connects from an address -/
  | connect (address : Endpoint)
  /-- a peer writes a chunk -/
  | send (peer : Nat) (chunk : Bytes)
  /-- a peer reads at most so many of the bytes that have arrived -/
  | receive (peer count : Nat)
  /-- a peer closes its connection -/
  | leave (peer : Nat)
  /-- the server does something by itself, or time passes -/
  | act (action : World.Action)

/-- A step that brings replies nearer to the peers. -/
def Step.IsWork : Step → Prop
  | .receive _ _ => True
  | .act (.pass _) | .act (.expire _ _) => False
  | .act _ => True
  | _ => False

namespace Scene

/-- The peer of a number, if it keeps its connection. -/
def peer? (s : Scene) (number : Nat) : Option Peer := s.peers[number]?.filter (·.isOpen)

/-- The scene with another state of a peer and of the network. -/
def set (s : Scene) (number : Nat) (p : Peer) (network : Network) : Scene :=
  { s with world := { s.world with network }, peers := s.peers.set number p }

/-- What a step comes to, if it is possible. -/
def step (s : Scene) : Step → Option Scene
  | .connect address => do
    let (listener, there) ← s.world.listening? s.server
    let (socket, network) := s.world.network.connect listener address there
    return { s with
      world := { s.world with network }
      peers := s.peers ++ [{ address, socket }] }
  | .send number chunk => do
    let p ← s.peer? number
    return s.set number { p with sent := p.sent ++ chunk } (s.world.network.write p.socket chunk).2
  | .receive number count => do
    let p ← s.peer? number
    match s.world.network.read p.socket count with
    | (.bytes (byte :: bytes), network) =>
      return s.set number { p with got := p.got ++ byte :: bytes } network
    | _ => none
  | .leave number => do
    let p ← s.peer? number
    return s.set number { p with isOpen := false } (s.world.network.close p.socket)
  | .act action => (s.world.act action).map fun world => { s with world }

/-- What a step does; an impossible one does nothing. -/
def after (s : Scene) (x : Step) : Scene := (s.step x).getD s

/-- What a sequence of steps does. -/
def run (s : Scene) (steps : List Step) : Scene := steps.foldl after s

@[simp] theorem run_cons (s : Scene) (x : Step) (steps : List Step) :
    s.run (x :: steps) = (s.after x).run steps := rfl

/-- What a sequence of steps comes to, if each of them is possible. -/
def take? (s : Scene) (steps : List Step) : Option Scene := steps.foldlM step s

/-- A step is as the echo law asks for: a new peer has an address of its own, a peer leaves when it
has read the frames that it sent, and no connection is closed for being idle. -/
def Calm (s : Scene) : Step → Prop
  | .connect address => address ∉ s.peers.map Peer.address
  | .leave number => ∀ p ∈ s.peers[number]?, Longest p.sent p.got
  | .act (.expire _ _) => False
  | _ => True

instance (s : Scene) (x : Step) : Decidable (s.Calm x) :=
  match x with
  | .connect _ => inferInstanceAs (Decidable (_ ∉ _))
  | .leave _ => inferInstanceAs (Decidable (∀ p ∈ _, _))
  | .act action => match action with
    | .expire _ _ => isFalse id
    | .accept _ | .read _ _ _ | .dispatch _ _ | .write _ _ | .deliver _ | .drain _ _ | .dial _ _
    | .settle _ _ | .giveUp _ _ | .evict _ _ | .pass _ => isTrue trivial
  | .send _ _ | .receive _ _ => isTrue trivial

/-- Every step of a sequence is as the echo law asks for. -/
def Undisturbed (s : Scene) : List Step → Prop
  | [] => True
  | x :: steps => s.Calm x ∧ (s.after x).Undisturbed steps

instance decidableUndisturbed (s : Scene) : (steps : List Step) → Decidable (s.Undisturbed steps)
  | [] => isTrue trivial
  | x :: steps =>
    have := decidableUndisturbed (s.after x) steps
    inferInstanceAs (Decidable (_ ∧ _))

/-- No reply can be brought nearer to a peer. -/
def AtRest (s : Scene) : Prop := ∀ x : Step, x.IsWork → s.step x = none

/-! ### Steps keep lines sound -/

/-- A scene whose server runs on a site with sound lines. -/
structure Good (config : ServerConfig) (s : Scene) (k : Site) : Prop where
  server : s.server = 0
  serving : Serving config s.world k
  orderly : Orderly (s.peers.map Peer.address) k
  lines : Lines s.peers k

variable {config : ServerConfig} {s t : Scene} {k : Site} {x : Step} {number : Nat} {p : Peer}

/-- Work never is anything that the echo law excludes. -/
theorem calm_of_isWork (hwork : x.IsWork) : s.Calm x := by
  cases x with
  | receive number count => exact trivial
  | act action => cases action <;> first | exact trivial | exact hwork
  | connect address => exact hwork.elim
  | send number chunk => exact hwork.elim
  | leave number => exact hwork.elim

theorem peer?_eq_some_iff :
    s.peer? number = some p ↔ s.peers[number]? = some p ∧ p.isOpen = true :=
  Option.filter_eq_some_iff

namespace Good

/-- A peer does something to its line. -/
theorem set (h : Good config s k) (hp : s.peers[number]? = some p) (p' : Peer)
    (haddress : p'.address = p.address) {network : Network}
    (ho : Orderly (s.peers.map Peer.address) { k with network })
    (hl : Lines (s.peers.set number p') { k with network }) :
    Good config (s.set number p' network) { k with network } where
  server := h.server
  serving := ⟨rfl, h.serving.nodes⟩
  orderly := by
    change Orderly ((s.peers.set number p').map Peer.address) _
    rw [map_address_set hp haddress]
    exact ho
  lines := hl

theorem connect (h : Good config s k) {address : Endpoint}
    (hnew : address ∉ s.peers.map Peer.address) (hstep : s.step (.connect address) = some t) :
    ∃ k', Good config t k' := by
  obtain ⟨⟨listener, there⟩, hlistening, hstep⟩ := Option.bind_eq_some_iff.1 hstep
  obtain ⟨address', received, hnode⟩ := h.serving.node?_zero
  rw [World.listening?, h.server, hnode] at hlistening
  obtain ⟨rfl, rfl⟩ := Prod.mk.inj (Option.some.inj hlistening)
  rw [h.serving.network] at hstep
  obtain rfl := Option.some.inj hstep
  refine ⟨{ k with network := (k.network.connect 0 address address').2 }, h.server,
    ⟨rfl, h.serving.nodes⟩, ?_, h.lines.connect h.orderly hnew address'⟩
  change Orderly ((s.peers ++ [_]).map Peer.address) _
  rw [List.map_append]
  exact h.orderly.connect hnew address'

theorem send (h : Good config s k) {chunk : Bytes} (hstep : s.step (.send number chunk) = some t) :
    ∃ k', Good config t k' := by
  obtain ⟨p, hp, hstep⟩ := Option.bind_eq_some_iff.1 hstep
  obtain ⟨hp, hopen⟩ := peer?_eq_some_iff.1 hp
  obtain rfl := Option.some.inj hstep
  obtain ⟨ho, hl⟩ := h.lines.send h.orderly hp hopen chunk
  rw [← (h.lines number p hp).1, ← h.serving.network] at ho hl
  exact ⟨_, h.set hp { p with sent := p.sent ++ chunk } rfl ho hl⟩

theorem receive (h : Good config s k) {count : Nat}
    (hstep : s.step (.receive number count) = some t) :
    ∃ k', Good config t k' ∧ effort t.peers k' < effort s.peers k := by
  obtain ⟨p, hp, hstep⟩ := Option.bind_eq_some_iff.1 hstep
  obtain ⟨hp, hopen⟩ := peer?_eq_some_iff.1 hp
  split at hstep
  · next byte bytes network hread =>
    obtain rfl := Option.some.inj hstep
    rw [h.serving.network, (h.lines number p hp).1] at hread
    obtain ⟨ho, hl, hlt⟩ := h.lines.receive h.orderly hp hopen hread (by simp)
    exact ⟨_, h.set hp { p with got := p.got ++ byte :: bytes } rfl ho hl, hlt⟩
  · simp at hstep

theorem leave (h : Good config s k) (hcalm : ∀ p ∈ s.peers[number]?, Longest p.sent p.got)
    (hstep : s.step (.leave number) = some t) : ∃ k', Good config t k' := by
  obtain ⟨p, hp, hstep⟩ := Option.bind_eq_some_iff.1 hstep
  obtain ⟨hp, hopen⟩ := peer?_eq_some_iff.1 hp
  obtain rfl := Option.some.inj hstep
  obtain ⟨ho, hl⟩ := h.lines.leave h.orderly hp hopen (hcalm p hp)
  rw [← (h.lines number p hp).1, ← h.serving.network] at ho hl
  exact ⟨_, h.set hp { p with isOpen := false } rfl ho hl⟩

theorem act (h : Good config s k) {action : World.Action}
    (hcalm : ∀ node id, action ≠ .expire node id) (hstep : s.step (.act action) = some t) :
    ∃ k', Good config t k' ∧
      ((Step.act action).IsWork → effort t.peers k' < effort s.peers k) := by
  obtain ⟨world, hact, rfl⟩ := Option.map_eq_some_iff.1 hstep
  obtain ⟨k', hserving, hmove⟩ := h.serving.move hact
  obtain ⟨ho, hl, heffort⟩ := h.lines.move h.orderly hmove hcalm
  refine ⟨k', ⟨h.server, hserving, ho, hl⟩, fun hwork => ?_⟩
  rcases heffort with ⟨⟨ms, rfl⟩, -⟩ | hlt
  · exact hwork.elim
  · exact hlt

/-- **A step keeps lines sound**, and work takes effort off them. -/
theorem step (h : Good config s k) (hcalm : s.Calm x) (hstep : s.step x = some t) :
    ∃ k', Good config t k' ∧ (x.IsWork → effort t.peers k' < effort s.peers k) := by
  cases x with
  | connect address => exact (h.connect hcalm hstep).imp fun _ hg => ⟨hg, False.elim⟩
  | send number chunk => exact (h.send hstep).imp fun _ hg => ⟨hg, False.elim⟩
  | receive number count => exact (h.receive hstep).imp fun _ hg => ⟨hg.1, fun _ => hg.2⟩
  | leave number => exact (h.leave hcalm hstep).imp fun _ hg => ⟨hg, False.elim⟩
  | act action =>
      refine h.act (fun node id heq => ?_) hstep
      rw [heq] at hcalm
      exact hcalm

/-- Work takes effort off a scene. -/
theorem wears : Wears Scene.step Step.IsWork fun left s =>
    ∃ k, Good config s k ∧ effort s.peers k = left := by
  rintro _ s x t ⟨k, h, rfl⟩ hwork hstep
  obtain ⟨k', hg, hlt⟩ := h.step (calm_of_isWork hwork) hstep
  exact ⟨_, hlt hwork, k', hg, rfl⟩

/-- Work comes to an end. -/
theorem length_le (h : Good config s k) {work : List Step} (hwork : ∀ x ∈ work, x.IsWork)
    (htake : s.take? work = some t) : work.length ≤ effort s.peers k :=
  wears.length_le ⟨k, h, rfl⟩ hwork htake

/-- Work can be done until there is rest. -/
theorem exists_atRest (h : Good config s k) :
    ∃ work t, (∀ x ∈ work, x.IsWork) ∧ s.take? work = some t ∧ t.AtRest :=
  wears.exists_rest ⟨k, h, rfl⟩

/-- What a peer has read is the beginning of the frames that it sent. -/
theorem isPrefix (h : Good config s k) (hp : p ∈ s.peers) {reply : Bytes}
    (hreply : Longest p.sent reply) : p.got <+: reply := by
  obtain ⟨number, hp⟩ := List.mem_iff_getElem?.1 hp
  exact (h.lines number p hp).2.isPrefix hreply

/-! ### Rest -/

/-- At rest the server has no connection to take in and no message to deliver. -/
theorem idle (h : Good config s k) (hrest : s.AtRest) :
    k.registry.nextId = s.peers.length ∧ k.hub.queue.queue = [] := by
  constructor
  · by_contra hne
    have hbacklog : k.network.backlog 0 ≠ [] := by
      intro hnil
      have := h.orderly.nextId_of_backlog hnil
      rw [List.length_map] at this
      exact hne this
    have hsome := h.serving.isSome_accept hbacklog
    have hnone := hrest (.act (.accept 0)) trivial
    rw [Scene.step, Option.map_eq_none_iff] at hnone
    simp [hnone] at hsome
  · by_contra hne
    have hsome := h.serving.isSome_deliver hne
    have hnone := hrest (.act (.deliver 0)) trivial
    rw [Scene.step, Option.map_eq_none_iff] at hnone
    simp [hnone] at hsome

/-- At rest nothing is left on the line of a peer that is served. -/
theorem settled (h : Good config s k) (hrest : s.AtRest) {traffic : Traffic}
    (hp : s.peers[number]? = some p) (hs : Served p number traffic (line k number p.address)) :
    Longest p.sent p.got := by
  have hqueue := (h.idle hrest).2
  have hattached : k.hub.attached? number = some ⟨number, 2 * number + 1, traffic.handler⟩ :=
    hs.attached
  have hnone : ∀ action, (Step.act action).IsWork → (s.world.act action).isSome = false := by
    intro action hwork
    have := hrest (.act action) hwork
    rw [Scene.step, Option.map_eq_none_iff] at this
    rw [this]
    rfl
  have hundelivered : traffic.handler.undelivered = [] := by
    refine Hub.undelivered_eq_nil hattached h.orderly.delivering h.orderly.room hqueue ?_
    cases hdispatch : k.hub.dispatch number with
    | none => rfl
    | some hub =>
        have := h.serving.isSome_dispatch hdispatch
        rw [hnone (.dispatch 0 number) trivial] at this
        exact absurd this (by simp)
  have hselecting := Hub.selecting?_eq_some_iff.2 ⟨hattached, hundelivered⟩
  cases hopen : p.isOpen with
  | false => exact hs.left hopen
  | true =>
      have hunread : traffic.unread = [] := by
        by_contra hne
        obtain ⟨far, hfar, hjoined, -⟩ := Lines.socket_of_served hs
        have := h.serving.isSome_read hselecting hfar (.inl (by rwa [hjoined.arrived]))
        rw [hnone (.read 0 number 1) trivial] at this
        exact absurd this (by simp)
      have houtbound : traffic.outbound = [] := by
        by_contra hne
        obtain ⟨payload, rest, hpayload⟩ := List.exists_cons_of_ne_nil hne
        have henrolment : k.registry.enrolment? number =
            some ⟨p.address, payload :: rest, true⟩ := hpayload ▸ hs.enrolment
        have hreceive : (k.registry.receive number).1 = .payload payload := by
          rw [Registry.receive, henrolment]
        have := h.serving.isSome_write hselecting hreceive
        rw [hnone (.write 0 number) trivial] at this
        exact absurd this (by simp)
      have hback : traffic.back = [] := by
        by_contra hne
        obtain ⟨near, hnear, hjoined⟩ := hs.sockets.near hopen
        obtain ⟨byte, rest, hbytes⟩ := List.exists_cons_of_ne_nil hne
        have hread := Network.read_of_arrived hnear (by rwa [hjoined.arrived]) 1
        rw [hjoined.arrived, hbytes] at hread
        have := hrest (.receive number 1) trivial
        rw [Scene.step, peer?_eq_some_iff.2 ⟨hp, hopen⟩, h.serving.network] at this
        simp [(h.lines number p hp).1, hread] at this
      have hqueued : (line k number p.address).queued = [] := by
        rw [line, hqueue]
        rfl
      exact hs.longest hunread hback houtbound hqueued hundelivered

/-- At rest every peer has read the frames that it sent. -/
theorem longest (h : Good config s k) (hrest : s.AtRest) (hp : p ∈ s.peers) :
    Longest p.sent p.got := by
  obtain ⟨number, hp⟩ := List.mem_iff_getElem?.1 hp
  cases (h.lines number p hp).2 with
  | waiting hw =>
      -- all connections were taken in
      obtain ⟨hlt, -⟩ := List.getElem?_eq_some_iff.1 hp
      rw [← (h.idle hrest).1, Registry.nextId] at hlt
      have henrolment := hw.enrolment
      rw [line, Registry.enrolment?, List.getElem?_eq_getElem hlt] at henrolment
      simp at henrolment
  | served traffic hs => exact h.settled hrest hp hs
  | gone hg => exact hg.left

/-! ### Quiet -/

/-- Nothing waits on a site, nor at a peer. -/
def Quiet (peers : List Peer) (k : Site) : Prop :=
  k.network.backlog 0 = [] ∧ k.hub.queue.queue = [] ∧
    (∀ a ∈ k.hub.attached, a.handler.undelivered = [] ∧
      (∀ socket ∈ k.network.socket? a.socket, socket.arrived = [] ∧ socket.ending = none) ∧
      (k.registry.receive a.id).1 = .empty) ∧
    ∀ p ∈ peers, ∀ socket ∈ k.network.socket? p.socket, socket.arrived = []

instance (peers : List Peer) (k : Site) : Decidable (Quiet peers k) :=
  inferInstanceAs (Decidable (_ ∧ _ ∧ _ ∧ _))

/-- On a quiet site a handler has nothing to read, to hand over or to write. -/
theorem quiet_attached (h : Good config s k) (hquiet : Quiet s.peers k) {a : Attached}
    (ha : k.hub.attached? number = some a) :
    a.handler.undelivered = [] ∧ (∀ most, k.network.read a.socket most = (.nothing, k.network)) ∧
      (k.registry.receive number).1 = .empty := by
  obtain ⟨hundelivered, hsocket, hreceive⟩ := hquiet.2.2.1 a (List.mem_of_find?_eq_some ha)
  obtain ⟨p, traffic, hp, hs, heq⟩ := h.lines.served h.orderly ha
  obtain ⟨far, hfar, -⟩ := Lines.socket_of_served hs
  have hfar' : k.network.socket? a.socket = some far := by
    rw [heq]
    exact hfar
  obtain ⟨harrived, hending⟩ := hsocket far hfar'
  rw [Hub.id_of_attached? ha] at hreceive
  refine ⟨hundelivered, fun most => ?_, hreceive⟩
  rw [Network.read_of_empty hfar' harrived, hending]

/-- On a quiet site the server can do nothing by itself. -/
theorem not_isWork (h : Good config s k) (hquiet : Quiet s.peers k) {now : Nat}
    {action : World.Action} {k' : Site} (hmove : Move config now k action k') :
    ¬(Step.act action).IsWork := by
  intro hwork
  have hselecting : ∀ {id a}, k.hub.selecting? id = some a → k.hub.attached? id = some a :=
    fun ha => (Hub.selecting?_eq_some_iff.1 ha).1
  cases hmove with
  | accept haccept _ =>
      obtain ⟨rest, hbacklog, -⟩ := Network.accept_eq_some_iff.1 haccept
      simp [hquiet.1] at hbacklog
  | chunk ha hread _ =>
      simp [(h.quiet_attached hquiet (hselecting ha)).2.1] at hread
  | streamEnd ha hread =>
      simp [(h.quiet_attached hquiet (hselecting ha)).2.1] at hread
  | readFailed ha hread =>
      simp [(h.quiet_attached hquiet (hselecting ha)).2.1] at hread
  | dispatch hdispatch =>
      obtain ⟨a, message, rest, ha, hundelivered, -⟩ := Hub.dispatch_eq_some_iff.1 hdispatch
      simp [(h.quiet_attached hquiet ha).1] at hundelivered
  | written ha hreceive _ _ =>
      simp [(h.quiet_attached hquiet (hselecting ha)).2.2] at hreceive
  | writeFailed ha hreceive _ _ =>
      simp [(h.quiet_attached hquiet (hselecting ha)).2.2] at hreceive
  | unqueued ha hreceive =>
      simp [(h.quiet_attached hquiet (hselecting ha)).2.2] at hreceive
  | expired ha hexpired => exact hwork
  | deliver hqueue => simp [hquiet.2.1] at hqueue
  | pass ms => exact hwork

/-- A scene in which nothing waits is at rest. -/
theorem atRest_of_quiet (h : Good config s k) (hsite : ∀ k ∈ s.world.site?, Quiet s.peers k) :
    s.AtRest := by
  have hquiet := hsite k h.serving.site?_eq
  intro x hwork
  by_contra hne
  obtain ⟨t, hstep⟩ := Option.ne_none_iff_exists'.1 hne
  cases x with
  | receive number count =>
      obtain ⟨p, hp, hstep⟩ := Option.bind_eq_some_iff.1 hstep
      obtain ⟨hp, hopen⟩ := peer?_eq_some_iff.1 hp
      obtain ⟨near, far, unread, back, hnear, -⟩ := h.lines.sockets hp hopen
      rw [← (h.lines number p hp).1] at hnear
      have harrived := hquiet.2.2.2 p (List.mem_of_getElem? hp) near hnear
      rw [h.serving.network, Network.read_of_empty hnear harrived] at hstep
      cases hending : near.ending with
      | none => simp [hending] at hstep
      | some ending => cases ending <;> simp [hending] at hstep
  | act action =>
      obtain ⟨world, hact, -⟩ := Option.map_eq_some_iff.1 hstep
      obtain ⟨k', -, hmove⟩ := h.serving.move hact
      exact h.not_isWork hquiet hmove hwork
  | connect address => exact hwork
  | send number chunk => exact hwork
  | leave number => exact hwork

end Good

/-! ### Runs -/

/-- **Every undisturbed run keeps lines sound.** -/
theorem good_run (h : Good config s k) {steps : List Step} (hsteps : s.Undisturbed steps) :
    ∃ k', Good config (s.run steps) k' := by
  induction steps generalizing s k with
  | nil => exact ⟨k, h⟩
  | cons x steps ih =>
      obtain ⟨hcalm, hsteps⟩ := hsteps
      rw [run_cons]
      cases hstep : s.step x with
      | none =>
          have hsame : s.after x = s := by rw [after, hstep]; rfl
          rw [hsame] at hsteps ⊢
          exact ih h hsteps
      | some t =>
          have hafter : s.after x = t := by rw [after, hstep]; rfl
          rw [hafter] at hsteps ⊢
          obtain ⟨k', hg, -⟩ := h.step hcalm hstep
          exact ih hg hsteps

end Scene

/-! ### The server that the program runs -/

/-- The world of the command `serve`, before anybody has connected. -/
theorem good_start {host : Host} {config : ServerConfig} {server : Nat} {world : World}
    (h : Program.beginServe (World.new host) config = .ok (server, world)) :
    ∃ k, Scene.Good config ⟨world, server, []⟩ k := by
  obtain ⟨rfl, address, hub, listening, given, hnetwork, hnodes, hattached, hqueue, hended,
    hcapacity⟩ := Program.startConnector_server h
  refine ⟨⟨{ host, listeners := [{ address := listening }], given }, {}, hub⟩, rfl,
    ⟨hnetwork, address, [], hnodes⟩, ?_, by simp [Lines]⟩
  refine ⟨List.nodup_nil, rfl, rfl, Nat.le_refl _, rfl, fun id _ => ?_, ?_, hended, hcapacity⟩
  · rw [Hub.attached?, hattached]
    rfl
  · intro m hm
    dsimp only at hm hqueue
    simp [hqueue] at hm

/-! ### Main result -/

/-- **The echo law.**  Any number of peers with distinct addresses connect to a server that sends
every message back.  They write any bytes, in chunks of any size and in any order among each other,
and read what comes back, while the server does whatever is possible, in any order; a peer leaves
only when it has read its replies, and no connection is closed for being idle.  Then what a peer has
read is at any time a beginning of the frames that stand whole at the beginning of its own stream;
it is all of them when nothing can be done for any reply; and whatever is done for replies from some
time on, that comes to an end, and can be done until there is rest. -/
theorem peers_read_their_own_frames {host : Host} {config : ServerConfig} {server : Nat}
    {world : World} (hserve : Program.beginServe (World.new host) config = .ok (server, world))
    (steps : List Step) (hsteps : Scene.Undisturbed ⟨world, server, []⟩ steps) :
    let s := Scene.run ⟨world, server, []⟩ steps
    (∀ p ∈ s.peers, ∃ reply, Longest p.sent reply ∧ p.got <+: reply ∧
      (s.AtRest → p.got = reply)) ∧
      (∃ bound, ∀ work t, (∀ x ∈ work, x.IsWork) → s.take? work = some t →
        work.length ≤ bound) ∧
      ∃ work t, (∀ x ∈ work, x.IsWork) ∧ s.take? work = some t ∧ t.AtRest := by
  intro s
  obtain ⟨k₀, hstart⟩ := good_start hserve
  obtain ⟨k, h⟩ : ∃ k, Scene.Good config s k := Scene.good_run hstart hsteps
  refine ⟨fun p hp => ?_, ⟨effort s.peers k, fun work t hwork htake => h.length_le hwork htake⟩,
    h.exists_atRest⟩
  have hreply : Longest p.sent _ := longest_iff.2 rfl
  exact ⟨_, hreply, h.isPrefix hp hreply, fun hrest => (h.longest hrest hp).unique hreply⟩

/-- Two peers whose frames arrive in pieces, between each other.  The second one sends only the
beginning of its last frame; it reads its reply and leaves while the first one is still waiting. -/
theorem peers_read_their_own_frames_interleaved :
    let first : Endpoint := .v4 .unspecified 1
    let second : Endpoint := .v4 .unspecified 2
    let steps : List Step :=
      [.connect first, .connect second, .send 0 [0x20, 1], .send 1 [0x00, 7, 0x10],
        .act (.accept 0), .act (.accept 0), .act (.read 0 0 1), .act (.read 0 1 8),
        .send 0 [0xAA, 0xBB, 0x00, 9], .act (.read 0 0 8), .act (.dispatch 0 0),
        .act (.dispatch 0 1), .act (.dispatch 0 0), .act (.deliver 0), .act (.deliver 0),
        .act (.write 0 1), .receive 1 8, .leave 1, .act (.pass 10), .act (.deliver 0),
        .act (.write 0 0), .act (.read 0 1 8), .act (.write 0 0), .receive 0 3, .receive 0 8]
    ∃ world, Program.beginServe (World.new .connected) (.ephemeral 5) = .ok (0, world) ∧
      let s := Scene.run ⟨world, 0, []⟩ steps
      Scene.Undisturbed ⟨world, 0, []⟩ steps ∧ s.AtRest ∧
        s.peers.map Peer.got = [[0x20, 1, 0xAA, 0xBB, 0x00, 9], [0x00, 7]] ∧
        ∀ p ∈ s.peers, Longest p.sent p.got := by
  intro first second steps
  let world : World := match Program.beginServe (World.new .connected) (.ephemeral 5) with
    | .ok (_, world) => world
    | .error _ => World.new .connected
  have hserve : Program.beginServe (World.new .connected) (.ephemeral 5) = .ok (0, world) := rfl
  have hsteps : Scene.Undisturbed ⟨world, 0, []⟩ steps := by decide +kernel
  refine ⟨world, hserve, hsteps, ?_⟩
  obtain ⟨_, hstart⟩ := good_start hserve
  obtain ⟨_, hgood⟩ := Scene.good_run hstart hsteps
  have hrest := hgood.atRest_of_quiet (by decide +kernel)
  refine ⟨hrest, by decide +kernel, fun p hp => ?_⟩
  obtain ⟨reply, hreply, -, hgot⟩ := (peers_read_their_own_frames hserve steps hsteps).1 p hp
  exact hgot hrest ▸ hreply

end Echo

end Framewire
