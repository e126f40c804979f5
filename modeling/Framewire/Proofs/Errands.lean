/-
**A client on an errand.**

A client that has just been started is asked to send one message to a destination, where somebody
listens who is no connector: a plain program that takes connections, reads and writes what it likes
and ends its side, or the connection, when it likes.  So the slot of the client waits, dials and is
connected; and then the destination gets the frame and the client what the destination says, until
the destination has nothing more to say, and the slot is evicted.

This module describes what can happen on an errand and how far it can have come, and says what each
step of the destination comes to.

Main definitions:

* `Errand.Step.IsWork`, `Errand.Scene.Calm` — the steps that bring the frame or a reply nearer to its
  end; nobody leaves without having read, and nothing takes too long;
* `Errand`, `Errand.Talk`, `Errand.Stage` — what an errand is about, and how far it has come;
* `Errand.Good` — a scene is as its stage says; `Errand.effort` — how much is left to do.

Main results:

* `Errand.Good.accept`, `Errand.Good.receive`, `Errand.Good.reply`, `Errand.Good.finish`,
  `Errand.Good.leave` — what the destination does.
-/

import Framewire.Proofs.Flows
import Framewire.Proofs.PlainConnectors
import Framewire.Proofs.Stillness
import Framewire.World.Responder

set_option autoImplicit false

namespace Framewire

open Framewire.Frame

/-- A dial reaches a listener, at which nobody has called before. -/
structure Network.Reaches (n : Network) (address : Endpoint) (listener : Nat) : Prop where
  obstacle : n.host.obstacle = none
  silent : address ∉ n.silent
  reach : n.listenerAt? address = some listener
  backlog : n.backlog listener = []

/-- Nobody has called before, so a new connection is all that waits to be taken. -/
theorem Network.Reaches.backlog_connected {n : Network} {address : Endpoint} {listener id : Nat}
    (h : n.Reaches address listener) (hnumber : n.sockets.length = id) (first : Bytes) :
    (n.connected id listener address first).backlog listener = [id + 1] := by
  have hlistener : (n.listener? listener).isSome = true := by
    obtain ⟨hlt, -⟩ := List.findIdx?_eq_some_iff_findIdx_eq.1 h.reach
    rw [listener?, List.getElem?_eq_getElem hlt]
    rfl
  rw [Network.backlog_connected hnumber hlistener, h.backlog, List.nil_append]

/-- What an errand is about: a frame for a destination with a listener, which goes out by a socket. -/
structure Errand where
  destination : Endpoint
  frame : Bytes
  /-- the number of the destination's listener -/
  listener : Nat
  /-- the number of the client's socket -/
  socket : Nat
  /-- how long the connection may be inactive -/
  idle : Option Nat
  /-- when the errand began -/
  since : Nat

namespace Errand

/-- A step that brings the frame nearer to the destination, or a reply nearer to the client. -/
def Step.IsWork : Step → Prop
  | .accept | .receive _ _ => True
  | .act action => action.IsWork
  | _ => False

namespace Scene

/-- A step disturbs nothing: the destination closes a connection only when it has read what has
arrived, no connection is closed for being idle, and no dial is given up. -/
def Calm (s : Scene) : Step → Prop
  | .leave number => ∀ v ∈ s.visits[number]?, ∀ socket ∈ s.world.network.socket? v.socket,
      socket.arrived = []
  | .act (.expire _ _) | .act (.giveUp _ _) => False
  | _ => True

instance (s : Scene) (x : Step) : Decidable (s.Calm x) :=
  match x with
  | .leave number => inferInstanceAs (Decidable (∀ v ∈ s.visits[number]?,
      ∀ socket ∈ s.world.network.socket? v.socket, socket.arrived = []))
  | .act action => match action with
    | .expire _ _ | .giveUp _ _ => isFalse id
    | .accept _ | .read _ _ _ | .dispatch _ _ | .write _ _ | .deliver _ | .drain _ _ | .dial _ _
    | .settle _ _ | .evict _ _ | .pass _ => isTrue trivial
  | .accept | .receive _ _ | .reply _ _ | .finish _ => isTrue trivial

/-- Work never disturbs anything. -/
theorem calm_of_isWork {s : Scene} {x : Step} (hwork : x.IsWork) : s.Calm x := by
  cases x with
  | act action => cases action <;> first | exact trivial | exact hwork
  | leave number => exact hwork.elim
  | _ => exact trivial

end Scene

/-! ### How far an errand has come -/

/-- The slot of a client that is, or was, connected. -/
inductive Slot where
  | serving (handler : Handler)
  /-- the connection has ended -/
  | ending
  | evicted

namespace Slot

def handler? : Slot → Option Handler
  | serving handler => some handler
  | _ => none

/-- The pool of the client. -/
def pool (destination : Endpoint) : Slot → Pool Bytes
  | serving _ => .solo destination [] .connected
  | ending => .solo destination [] .ending
  | evicted => { nextId := 2 }

/-- The number of steps until the slot is evicted. -/
def effort : Slot → Nat
  | serving _ => 2
  | ending => 1
  | evicted => 0

end Slot

/-- What there is of the connection between the client and the destination. -/
structure Talk where
  /-- the client's end -/
  address : Endpoint
  visit : Visit
  /-- what the destination has not read of the frame -/
  rest : Bytes
  /-- what goes from the destination to the client -/
  down : Exchange.Flow
  slot : Slot
  /-- whether the destination may still write -/
  speaks : Bool := true
  /-- whether the destination keeps the connection -/
  stays : Bool := true

/-- How far an errand has come. -/
inductive Stage where
  /-- the slot of the client waits -/
  | waiting
  /-- it dials -/
  | dialing
  /-- it has been connected -/
  | linked (t : Talk)

variable {e : Errand} {s s' : Scene} {n n' : Network} {t t' : Talk} {stage : Stage}
  {visits : List Visit} {v : Visit} {number : Nat}

namespace Talk

/-- The client's socket. -/
def near (e : Errand) (t : Talk) : Socket where
  here := t.address
  there := e.destination
  twin := e.socket + 1
  arrived := t.down.arrived
  ending := if t.speaks then none else some .finished
  writable := t.slot.handler?.isSome
  isOpen := t.slot.handler?.isSome

/-- The destination's socket. -/
def far (e : Errand) (t : Talk) : Socket where
  here := e.destination
  there := t.address
  twin := e.socket
  arrived := t.rest
  ending := if t.slot.handler?.isSome then none else some .finished
  writable := t.speaks
  isOpen := t.stays

/-- The destination gets the frame and nothing else, the client hears what the destination says, and
its connection ends only when there is nothing more to hear. -/
structure Sound (e : Errand) (t : Talk) : Prop where
  socket : t.visit.socket = e.socket + 1
  frame : t.visit.got ++ t.rest = e.frame
  hears : t.down.Hears e.destination t.visit.said
  handles : ∀ handler, t.slot.handler? = some handler → Exchange.Handles t.down handler
  ended : t.slot.handler? = none →
    t.speaks = false ∧ t.down.arrived = [] ∧ t.down.undelivered = []
  left : t.stays = false → t.speaks = false

/-- A network has the two sockets of the connection. -/
structure Carried (e : Errand) (t : Talk) (n : Network) : Prop where
  near : n.socket? e.socket = some (t.near e)
  far : n.socket? (e.socket + 1) = some (t.far e)

/-- The destination has one connection, which it has taken or has not. -/
inductive Seen (e : Errand) (t : Talk) (n : Network) (visits : List Visit) : Prop where
  | pending (hbacklog : n.backlog e.listener = [e.socket + 1]) (hvisits : visits = [])
      (hvisit : t.visit = { socket := e.socket + 1 })
  | taken (hbacklog : n.backlog e.listener = []) (hvisits : visits = [t.visit])

end Talk

namespace Stage

/-- The pool of the client. -/
def pool (e : Errand) : Stage → Pool Bytes
  | waiting => .solo e.destination [e.frame] .waiting
  | dialing => .solo e.destination [] (.dialing e.frame)
  | linked t => t.slot.pool e.destination

/-- The connection of the client's slot. -/
def attached? (e : Errand) : Stage → Option Attached
  | linked t => t.slot.handler?.map fun handler => ⟨1, e.socket, handler⟩
  | _ => none

/-- The messages that wait for the client's sink. -/
def queued : Stage → List Message
  | linked t => t.down.queued
  | _ => []

/-- The messages that the client's sink took. -/
def taken : Stage → List Message
  | linked t => t.down.taken
  | _ => []

/-- How much is left to do. -/
def effort (e : Errand) : Stage → Nat
  | waiting => e.frame.length + 5
  | dialing => e.frame.length + 4
  | linked t => t.rest.length + t.down.effort + t.slot.effort

end Stage

/-- What a client waits for: its slot dials, or its connection has been active since the errand
began. -/
structure Timed (e : Errand) (stage : Stage) (r : Client.Round) : Prop where
  idle : r.idleTimeout = e.idle
  dials : ∀ entry ∈ r.dials, stage = .dialing ∧ entry.1 = 1
  active : ∀ a, stage.attached? e = some a →
    a.handler.timer.timeout = e.idle ∧ e.since ≤ a.handler.timer.lastActivity

/-- A client is as its stage says. -/
structure Desk (e : Errand) (stage : Stage) (r : Client.Round) (received : List Message) : Prop where
  pool : r.pool = stage.pool e
  attached : r.hub.attached = (stage.attached? e).toList
  queued : r.hub.queue.queue = stage.queued
  received : received.reverse = stage.taken
  delivering : r.hub.queue.ended = false
  room : 0 < r.hub.queue.capacity
  timed : Timed e stage r

/-- The network and the destination are as the stage says. -/
def Place (e : Errand) (n : Network) (visits : List Visit) : Stage → Prop
  | .linked t => t.Sound e ∧ t.Carried e n ∧ t.Seen e n visits
  | _ => n.Reaches e.destination e.listener ∧ n.sockets.length = e.socket ∧ visits = []

/-- A scene with a client that is alone in its world is as the stage says. -/
structure Good (e : Errand) (s : Scene) (stage : Stage) : Prop where
  listener : s.listener = e.listener
  clock : e.since ≤ s.world.now
  client : ∃ config r received,
    s.world.nodes = [⟨.client (.plain config r), received⟩] ∧ Desk e stage r received
  place : Place e s.world.network s.visits stage

/-- How much is left to do: as the stage says, and a connection may be left to be taken. -/
def effort (e : Errand) (stage : Stage) (visits : List Visit) : Nat :=
  stage.effort e + (1 - visits.length)

/-! ### What the destination does -/

namespace Talk

namespace Carried

/-- The destination's socket changes. -/
theorem modify_far (hc : t.Carried e n) {f : Socket → Socket} (hnear : t'.near e = t.near e)
    (hfar : f (t.far e) = t'.far e) : t'.Carried e (n.modifySocket (e.socket + 1) f) where
  near := by rw [Network.socket?_modifySocket, if_neg (by omega), hc.near, hnear]
  far := by rw [Network.socket?_modifySocket, if_pos rfl, hc.far, Option.map_some, hfar]

/-- The client's socket changes. -/
theorem modify_near (hc : t.Carried e n) {f : Socket → Socket} (hnear : f (t.near e) = t'.near e)
    (hfar : t'.far e = t.far e) : t'.Carried e (n.modifySocket e.socket f) where
  near := by rw [Network.socket?_modifySocket, if_pos rfl, hc.near, Option.map_some, hnear]
  far := by rw [Network.socket?_modifySocket, if_neg (by omega), hc.far, hfar]

/-- The destination writes, if it may: the chunk arrives at the client. -/
theorem write (hc : t.Carried e n) (hs : t.Sound e) {chunk : Bytes}
    (hwrite : n.write (e.socket + 1) chunk = (.complete, n')) :
    n' = n.modifySocket e.socket fun s => { s with arrived := s.arrived ++ chunk } := by
  cases hstays : t.stays with
  | false => simp [Network.write, hc.far, Talk.far, hstays] at hwrite
  | true =>
      cases hspeaks : t.speaks with
      | false => simp [Network.write, hc.far, Talk.far, hspeaks] at hwrite
      | true =>
          have hopen : (t.near e).isOpen = true := by
            cases hslot : t.slot.handler? with
            | none => simp [(hs.ended hslot).1] at hspeaks
            | some handler => simp [Talk.near, hslot]
          rw [Network.write_of_open hc.far hstays hspeaks hc.near hopen chunk] at hwrite
          exact (congrArg Prod.snd hwrite).symm

/-- The destination will write nothing more. -/
theorem finish (hc : t.Carried e n) :
    { t with speaks := false }.Carried e (n.finish (e.socket + 1)) := by
  have hsockets := Network.socket?_finish hc.far (show e.socket ≠ e.socket + 1 by omega)
  constructor
  · rw [hsockets, if_neg (by omega), hc.near]
    cases hspeaks : t.speaks with
    | false => simp [Talk.far, Talk.near, hspeaks]
    | true => simp [Talk.far, Talk.near, hspeaks]
  · rw [hsockets, if_pos rfl]
    rfl

/-- The destination closes the connection, of which it has read everything. -/
theorem leave (hc : t.Carried e n) (hs : t.Sound e) (hrest : t.rest = []) :
    { t with speaks := false, stays := false }.Carried e (n.close (e.socket + 1)) := by
  cases hstays : t.stays with
  | false =>
      have hclose : n.close (e.socket + 1) = n := by
        rw [Network.close, hc.far]
        simp [Talk.far, hstays]
      obtain ⟨address, visit, rest, down, slot, speaks, stays⟩ := t
      obtain rfl : stays = false := hstays
      obtain rfl : speaks = false := hs.left rfl
      rw [hclose]
      exact hc
  | true =>
      have hsockets := Network.socket?_close_of_read hc.far hstays hrest
        (show e.socket ≠ e.socket + 1 by omega)
      constructor
      · rw [hsockets, if_neg (by omega), hc.finish.near]
        rfl
      · rw [hsockets, if_pos rfl]
        simp [Talk.far, hrest]

end Carried

/-- The destination has the connection that it had, as long as it takes none. -/
theorem Seen.congr (h : t.Seen e n visits) (hvisit : t'.visit = t.visit)
    (hlistener : n'.listener? e.listener = n.listener? e.listener) : t'.Seen e n' visits := by
  have hbacklog : n'.backlog e.listener = n.backlog e.listener := by
    rw [Network.backlog, hlistener, Network.backlog]
  cases h with
  | pending h₁ h₂ h₃ => exact .pending (hbacklog.trans h₁) h₂ (hvisit.trans h₃)
  | taken h₁ h₂ => exact .taken (hbacklog.trans h₁) (hvisit ▸ h₂)

end Talk

namespace Good

/-- A connection at the destination is the one that the client has made. -/
theorem of_visit (h : Good e s stage) (hv : s.visits[number]? = some v) :
    ∃ t, stage = .linked t ∧ number = 0 ∧ v = t.visit ∧ s.visits = [t.visit] ∧
      s.world.network.backlog e.listener = [] := by
  have hplace := h.place
  cases stage with
  | waiting => simp [hplace.2.2] at hv
  | dialing => simp [hplace.2.2] at hv
  | linked t =>
      cases hplace.2.2 with
      | pending _ hvisits _ => simp [hvisits] at hv
      | taken hbacklog hvisits =>
          rw [hvisits, List.getElem?_singleton] at hv
          split at hv
          · next hnumber =>
            exact ⟨t, rfl, hnumber, (Option.some.inj hv).symm, hvisits, hbacklog⟩
          · simp at hv

/-- The destination has done something on the connection that it has taken. -/
theorem set (h : Good e s (.linked t)) (hvisits : s.visits = [t.visit])
    (hbacklog : s.world.network.backlog e.listener = []) (hsound : t'.Sound e)
    (hcarried : t'.Carried e n)
    (hlistener : n.listener? e.listener = s.world.network.listener? e.listener)
    (hslot : t'.slot = t.slot) (hqueued : t'.down.queued = t.down.queued)
    (htaken : t'.down.taken = t.down.taken) : Good e (s.set 0 t'.visit n) (.linked t') where
  listener := h.listener
  clock := h.clock
  client := by
    obtain ⟨config, r, received, hn, hd⟩ := h.client
    have hattached : (Stage.linked t').attached? e = (Stage.linked t).attached? e := by
      rw [Stage.attached?, Stage.attached?, hslot]
    refine ⟨config, r, received, hn, ?_, ?_, hd.queued.trans hqueued.symm,
      hd.received.trans htaken.symm, hd.delivering, hd.room, hd.timed.idle, ?_, ?_⟩
    · exact hd.pool.trans (congrArg (Slot.pool e.destination) hslot.symm)
    · rw [hattached]
      exact hd.attached
    · exact fun entry hentry => absurd (hd.timed.dials entry hentry).1 nofun
    · rw [hattached]
      exact hd.timed.active
  place := by
    have hbacklog' : n.backlog e.listener = [] := by
      rw [Network.backlog, hlistener]
      exact hbacklog
    have hvisits' : (s.set 0 t'.visit n).visits = [t'.visit] := by
      rw [Scene.set, hvisits]
      rfl
    exact ⟨hsound, hcarried, .taken hbacklog' hvisits'⟩

/-- **The destination takes the connection.** -/
theorem accept (h : Good e s stage) (hstep : s.step .accept = some s') :
    Good e s' stage ∧ effort e stage s'.visits < effort e stage s.visits := by
  obtain ⟨⟨socket, network⟩, haccept, hstep⟩ := Option.bind_eq_some_iff.1 hstep
  obtain rfl := Option.some.inj hstep
  rw [h.listener] at haccept
  obtain ⟨rest, hbacklog, rfl⟩ := Network.accept_eq_some_iff.1 haccept
  obtain ⟨hlistener, hclock, hclient, hplace⟩ := h
  cases stage with
  | waiting => simp [hplace.1.backlog] at hbacklog
  | dialing => simp [hplace.1.backlog] at hbacklog
  | linked t =>
      obtain ⟨hsound, hcarried, hseen⟩ := hplace
      cases hseen with
      | taken hnone hvisits => simp [hnone] at hbacklog
      | pending hpending hvisits hvisit =>
          obtain ⟨rfl, rfl⟩ := List.cons.inj (hpending.symm.trans hbacklog)
          refine ⟨⟨hlistener, hclock, hclient, hsound, ⟨hcarried.near, hcarried.far⟩, ?_⟩, ?_⟩
          · refine .taken (Network.backlog_accept hbacklog) ?_
            rw [hvisits, hvisit]
            rfl
          · simp [effort, hvisits]

/-- **The destination reads.** -/
theorem receive (h : Good e s stage) {count : Nat}
    (hstep : s.step (.receive number count) = some s') :
    ∃ stage', Good e s' stage' ∧ effort e stage' s'.visits < effort e stage s.visits := by
  obtain ⟨v, hv, hstep⟩ := Option.bind_eq_some_iff.1 hstep
  obtain ⟨t, rfl, rfl, rfl, hvisits, hbacklog⟩ := h.of_visit hv
  obtain ⟨hsound, hcarried, -⟩ := h.place
  split at hstep
  · next byte bytes network hread =>
    obtain rfl := Option.some.inj hstep
    rw [hsound.socket] at hread
    obtain ⟨hbytes, rfl⟩ := Network.of_read_bytes hcarried.far hread
    replace hbytes : byte :: bytes = t.rest.take count := hbytes
    let t' : Talk := { t with
      visit := { t.visit with got := t.visit.got ++ byte :: bytes }
      rest := t.rest.drop count }
    have hsound' : t'.Sound e := by
      refine ⟨hsound.socket, ?_, hsound.hears, hsound.handles, hsound.ended, hsound.left⟩
      change (t.visit.got ++ byte :: bytes) ++ t.rest.drop count = e.frame
      rw [hbytes, List.append_assoc, List.take_append_drop, hsound.frame]
    have hcarried' : t'.Carried e (s.world.network.modifySocket (e.socket + 1)
        fun s => { s with arrived := s.arrived.drop count }) := hcarried.modify_far rfl rfl
    refine ⟨.linked t', h.set hvisits hbacklog hsound' hcarried' rfl rfl rfl rfl, ?_⟩
    have hlength := congrArg List.length hbytes
    simp only [effort, Stage.effort, Scene.set, t', List.length_set, List.length_drop,
      List.length_cons, List.length_take] at hlength ⊢
    omega
  · simp at hstep

/-- **The destination says something.** -/
theorem reply (h : Good e s stage) {chunk : Bytes}
    (hstep : s.step (.reply number chunk) = some s') : ∃ stage', Good e s' stage' := by
  obtain ⟨v, hv, hstep⟩ := Option.bind_eq_some_iff.1 hstep
  obtain ⟨t, rfl, rfl, rfl, hvisits, hbacklog⟩ := h.of_visit hv
  obtain ⟨hsound, hcarried, -⟩ := h.place
  split at hstep
  · next network hwrite =>
    obtain rfl := Option.some.inj hstep
    rw [hsound.socket] at hwrite
    obtain rfl := hcarried.write hsound hwrite
    let t' : Talk := { t with
      visit := { t.visit with said := t.visit.said ++ chunk }
      down := { t.down with arrived := t.down.arrived ++ chunk } }
    have hspeaks : t.slot.handler? ≠ none := by
      intro hslot
      simp [Network.write, hcarried.far, Talk.far, (hsound.ended hslot).1] at hwrite
    have hsound' : t'.Sound e := by
      refine ⟨hsound.socket, hsound.frame, hsound.hears.arrive chunk, fun handler hslot => ?_,
        fun hslot => absurd hslot hspeaks, hsound.left⟩
      exact ⟨(hsound.handles handler hslot).framer, (hsound.handles handler hslot).undelivered⟩
    have hcarried' : t'.Carried e (s.world.network.modifySocket e.socket
        fun s => { s with arrived := s.arrived ++ chunk }) := hcarried.modify_near rfl rfl
    exact ⟨.linked t', h.set hvisits hbacklog hsound' hcarried' rfl rfl rfl rfl⟩
  · simp at hstep

/-- **The destination has said everything.** -/
theorem finish (h : Good e s stage) (hstep : s.step (.finish number) = some s') :
    ∃ stage', Good e s' stage' := by
  obtain ⟨v, hv, hstep⟩ := Option.bind_eq_some_iff.1 hstep
  obtain ⟨t, rfl, rfl, rfl, hvisits, hbacklog⟩ := h.of_visit hv
  obtain ⟨hsound, hcarried, -⟩ := h.place
  obtain rfl := Option.some.inj hstep
  rw [hsound.socket]
  let t' : Talk := { t with speaks := false }
  have hsound' : t'.Sound e :=
    ⟨hsound.socket, hsound.frame, hsound.hears, hsound.handles,
      fun hslot => ⟨rfl, (hsound.ended hslot).2⟩, fun _ => rfl⟩
  have hcarried' : t'.Carried e (s.world.network.finish (e.socket + 1)) := hcarried.finish
  exact ⟨.linked t', h.set hvisits hbacklog hsound' hcarried' (Network.listener?_finish ..) rfl rfl
    rfl⟩

/-- **The destination closes the connection.** -/
theorem leave (h : Good e s stage) (hcalm : s.Calm (.leave number))
    (hstep : s.step (.leave number) = some s') : ∃ stage', Good e s' stage' := by
  obtain ⟨v, hv, hstep⟩ := Option.bind_eq_some_iff.1 hstep
  obtain ⟨t, rfl, rfl, rfl, hvisits, hbacklog⟩ := h.of_visit hv
  obtain ⟨hsound, hcarried, -⟩ := h.place
  obtain rfl := Option.some.inj hstep
  have hrest : t.rest = [] := hcalm t.visit hv (t.far e) (hsound.socket ▸ hcarried.far)
  rw [hsound.socket]
  let t' : Talk := { t with speaks := false, stays := false }
  have hsound' : t'.Sound e :=
    ⟨hsound.socket, hsound.frame, hsound.hears, hsound.handles,
      fun hslot => ⟨rfl, (hsound.ended hslot).2⟩, fun _ => rfl⟩
  have hcarried' : t'.Carried e (s.world.network.close (e.socket + 1)) :=
    hcarried.leave hsound hrest
  exact ⟨.linked t', h.set hvisits hbacklog hsound' hcarried' (Network.listener?_close ..) rfl rfl
    rfl⟩

end Good

end Errand

end Framewire
