/-
**What an errand comes to.**

Whoever listens at the destination of an errand sees one connection at most and gets a beginning of
the frame, and nothing else; what the client's sink takes are frames that stand at the beginning of
what the destination says.  That is so after every step, and so in every run.  Work on an errand comes
to an end, and where no more is possible, the frame has arrived and so have the replies.

Main definitions:

* `Errand.Scene.Undisturbed`, `Errand.Scene.AtRest` — runs, and where they come to rest;
* `Errand.Scene.connections` — the connections that the destination sees.

Main results:

* `Errand.Good.step`, `Errand.good_run` — errands stay in order, step by step and in every run;
* `Errand.wears` — work takes effort off an errand;
* `Errand.Good.rest` — **at rest the frame has arrived, and so have the replies**.
-/

import Framewire.Proofs.ErrandMoves

set_option autoImplicit false

namespace Framewire

open Framewire.Frame

namespace Errand

namespace Scene

/-! ### Runs -/

/-- What a sequence of steps comes to, if each of them is possible. -/
def take? (s : Scene) (steps : List Step) : Option Scene := steps.foldlM step s

/-- No step of a sequence disturbs anything. -/
def Undisturbed (s : Scene) : List Step → Prop
  | [] => True
  | x :: steps => s.Calm x ∧ (s.after x).Undisturbed steps

instance decidableUndisturbed (s : Scene) : (steps : List Step) → Decidable (s.Undisturbed steps)
  | [] => isTrue trivial
  | x :: steps =>
    have := decidableUndisturbed (s.after x) steps
    inferInstanceAs (Decidable (_ ∧ _))

/-- The frame cannot be brought nearer to the destination, nor a reply to the client. -/
def AtRest (s : Scene) : Prop := ∀ x : Step, x.IsWork → s.step x = none

/-- The number of connections that the destination sees. -/
def connections (s : Scene) : Nat :=
  s.visits.length + (s.world.network.backlog s.listener).length

variable {s t : Scene} {x : Step} {v : Visit} {number count : Nat}

theorem run_append (s : Scene) (first later : List Step) :
    s.run (first ++ later) = (s.run first).run later := List.foldl_append

theorem after_of_step (h : s.step x = some t) : s.after x = t := by
  rw [after, h, Option.getD_some]

theorem arrived_of_socket? {socket : Socket}
    (hsocket : s.world.network.socket? v.socket = some socket) : s.arrived v = socket.arrived := by
  rw [arrived, hsocket]
  rfl

/-- The destination reads from the front of what has arrived, if there is anything. -/
theorem step_receive (hv : s.visits[number]? = some v) (count : Nat) :
    s.step (.receive number count) =
      if (s.arrived v).take count = [] then none
      else some (s.set number { v with got := v.got ++ (s.arrived v).take count }
        (s.world.network.modifySocket v.socket
          fun socket => { socket with arrived := socket.arrived.drop count })) := by
  rw [step, hv]
  simp only [Option.bind_eq_bind, Option.bind_some]
  cases hsocket : s.world.network.socket? v.socket with
  | none => simp [Network.read, hsocket, arrived]
  | some socket =>
      rw [arrived_of_socket? hsocket]
      by_cases harrived : socket.arrived = []
      · rw [Network.read_of_empty hsocket harrived, harrived, List.take_nil, if_pos rfl]
        rcases socket.ending with _ | _ | _ <;> rfl
      · rw [Network.read_of_arrived hsocket harrived]
        cases hbytes : socket.arrived.take count with
        | nil => rw [if_pos rfl]
        | cons byte bytes => rw [if_neg (by simp)]; rfl

theorem step_act_eq_none {action : World.Action} :
    s.step (.act action) = none ↔ s.world.act action = none := by
  rw [step, Option.map_eq_none_iff]

/-- At rest no connection waits to be taken, everything was read that has arrived, and the client has
nothing to do. -/
theorem atRest_iff :
    s.AtRest ↔ s.world.network.accept s.listener = none ∧ (∀ v ∈ s.visits, s.arrived v = []) ∧
      s.world.Quiet := by
  have haccept : s.step .accept = none ↔ s.world.network.accept s.listener = none := by
    rw [step]
    cases s.world.network.accept s.listener <;> simp
  constructor
  · refine fun hrest => ⟨haccept.1 (hrest .accept trivial), fun v hmem => ?_,
      fun action hwork => step_act_eq_none.1 (hrest (.act action) hwork)⟩
    obtain ⟨number, hv⟩ := List.mem_iff_getElem?.1 hmem
    have hreceive := hrest (.receive number (s.arrived v).length) trivial
    rw [step_receive hv, List.take_length] at hreceive
    by_contra hne
    simp [hne] at hreceive
  · rintro ⟨hnone, hread, hquiet⟩ x hwork
    cases x with
    | accept => exact haccept.2 hnone
    | receive number count =>
        cases hv : s.visits[number]? with
        | none => rw [step, hv]; rfl
        | some v => 
            rw [step_receive hv, hread v (List.mem_of_getElem? hv), List.take_nil, if_pos rfl]
    | act action => exact step_act_eq_none.2 (hquiet action hwork)
    | reply number chunk => exact hwork.elim
    | finish number => exact hwork.elim
    | leave number => exact hwork.elim

end Scene

variable {e : Errand} {s s' : Scene} {t : Talk} {stage : Stage} {x : Step} {steps : List Step}
  {frames : List Bytes} {left : Bytes}

/-! ### Errands stay in order -/

/-- An action that disturbs nothing is work, or time passes. -/
theorem isWork_or_pass {action : World.Action} (hcalm : s.Calm (.act action)) :
    action.IsWork ∨ ∃ ms, action = .pass ms := by
  cases action with
  | pass ms => exact .inr ⟨ms, rfl⟩
  | expire node id => exact hcalm.elim
  | giveUp node slot => exact hcalm.elim
  | _ => exact .inl trivial

/-- **A step keeps an errand in order**, and work takes effort off it. -/
theorem Good.step (h : Good e s stage) (hcalm : s.Calm x) (hstep : s.step x = some s') :
    ∃ stage', Good e s' stage' ∧
      (x.IsWork → effort e stage' s'.visits < effort e stage s.visits) := by
  cases x with
  | accept => exact ⟨stage, (h.accept hstep).1, fun _ => (h.accept hstep).2⟩
  | receive number count => exact (h.receive hstep).imp fun _ hg => ⟨hg.1, fun _ => hg.2⟩
  | reply number chunk => exact (h.reply hstep).imp fun _ hg => ⟨hg, False.elim⟩
  | finish number => exact (h.finish hstep).imp fun _ hg => ⟨hg, False.elim⟩
  | leave number => exact (h.leave hcalm hstep).imp fun _ hg => ⟨hg, False.elim⟩
  | act action =>
      obtain ⟨world, hact, rfl⟩ := Option.map_eq_some_iff.1 hstep
      rcases isWork_or_pass hcalm with hwork | ⟨ms, rfl⟩
      · exact (h.act hwork hact).imp fun _ hg => ⟨hg.1, fun _ => hg.2⟩
      · exact ⟨stage, h.pass hact, False.elim⟩

/-- **Every undisturbed run keeps an errand in order.** -/
theorem good_run (h : Good e s stage) (hsteps : s.Undisturbed steps) :
    ∃ stage', Good e (s.run steps) stage' := by
  induction steps generalizing s stage with
  | nil => exact ⟨stage, h⟩
  | cons x steps ih =>
      obtain ⟨hcalm, hsteps⟩ := hsteps
      rw [Scene.run_cons]
      cases hstep : s.step x with
      | none =>
          have hsame : s.after x = s := by rw [Scene.after, hstep, Option.getD_none]
          rw [hsame] at hsteps ⊢
          exact ih h hsteps
      | some t =>
          rw [Scene.after_of_step hstep] at hsteps ⊢
          obtain ⟨stage', hg, -⟩ := h.step hcalm hstep
          exact ih hg hsteps

/-- Work takes effort off an errand. -/
theorem wears (e : Errand) : Wears Scene.step Step.IsWork fun left s =>
    ∃ stage, Good e s stage ∧ effort e stage s.visits = left := by
  rintro _ s x t ⟨stage, h, rfl⟩ hwork hstep
  obtain ⟨stage', hg, hlt⟩ := h.step (Scene.calm_of_isWork hwork) hstep
  exact ⟨_, hlt hwork, stage', hg, rfl⟩

namespace Good

/-! ### What is seen of an errand -/

theorem messages_eq (h : Good e s stage) : s.world.messages 0 = stage.taken := by
  obtain ⟨config, r, received, hn, hd⟩ := h.node?_zero
  rw [World.messages, hn]
  exact hd.received

/-- There is at most one connection. -/
theorem connections_le (h : Good e s stage) : s.connections ≤ 1 := by
  rw [Scene.connections, h.listener]
  have hplace := h.place
  cases stage with
  | waiting => simp [hplace.1.backlog, hplace.2.2]
  | dialing => simp [hplace.1.backlog, hplace.2.2]
  | linked t =>
      cases hplace.2.2 with
      | pending hbacklog hvisits _ => simp [hbacklog, hvisits]
      | taken hbacklog hvisits => simp [hbacklog, hvisits]

/-- What the destination has read and written is what it has on the connection of the client. -/
theorem got_said (h : Good e s (.linked t)) : s.got = t.visit.got ∧ s.said = t.visit.said := by
  cases h.place.2.2 with
  | pending _ hvisits hvisit => simp [Scene.got, Scene.said, hvisits, hvisit]
  | taken _ hvisits => simp [Scene.got, Scene.said, hvisits]

theorem got_prefix (h : Good e s stage) : s.got <+: e.frame := by
  cases stage with
  | waiting => simp [Scene.got, h.place.2.2]
  | dialing => simp [Scene.got, h.place.2.2]
  | linked t =>
      rw [h.got_said.1, ← h.place.1.frame]
      exact List.prefix_append ..

/-- What the client's sink took are frames of what the destination has written. -/
theorem messages_prefix (h : Good e s stage) (hframing : Framing s.said frames left) :
    s.world.messages 0 <+: frames.map (Message.mk · e.destination) := by
  rw [h.messages_eq]
  cases stage with
  | waiting => exact List.nil_prefix
  | dialing => exact List.nil_prefix
  | linked t =>
      obtain ⟨frames', left', hframing', hmessages, -⟩ := h.place.1.hears.exists_framing
      rw [h.got_said.2] at hframing
      rw [(hframing.unique hframing').1]
      refine List.IsPrefix.trans ?_ hmessages
      rw [Exchange.Flow.messages, List.append_assoc]
      exact List.prefix_append ..

/-! ### Rest -/

theorem act_of_rest (hrest : s.AtRest) {action : World.Action} (hwork : action.IsWork) :
    s.world.act action = none := (Scene.atRest_iff.1 hrest).2.2 action hwork

/-- At rest the client has been connected. -/
theorem linked_of_rest (h : Good e s stage) (hrest : s.AtRest) : ∃ t, stage = .linked t := by
  obtain ⟨config, r, received, hn, hd⟩ := h.node?_zero
  cases stage with
  | linked t => exact ⟨t, rfl⟩
  | waiting =>
      have hdial : s.world.act (.dial 0 1) = none := act_of_rest hrest trivial
      rw [World.act_dial_eq hn (show _ = some r from rfl),
        Client.Round.dial_of_solo hd.pool] at hdial
      cases hdial
  | dialing =>
      obtain ⟨hreach, hnumber, -⟩ := h.place
      have hsettle : s.world.act (.settle 0 1) = none := act_of_rest hrest trivial
      have hconnected := Client.Round.settle_connected hd.pool hnumber hreach.obstacle hreach.silent
        hreach.reach s.world.now
      rw [World.act_settle_eq hn (show _ = some r from rfl), hconnected] at hsettle
      cases hsettle

/-- At rest the destination has taken the connection, and has read all of the frame. -/
theorem read_of_rest (h : Good e s (.linked t)) (hrest : s.AtRest) :
    s.visits = [t.visit] ∧ s.world.network.backlog e.listener = [] ∧ t.rest = [] := by
  obtain ⟨hsound, hcarried, hseen⟩ := h.place
  obtain ⟨haccept, hread, -⟩ := Scene.atRest_iff.1 hrest
  cases hseen with
  | pending hbacklog hvisits hvisit =>
      rw [h.listener, Network.accept_eq_some_iff.2 ⟨[], hbacklog, rfl⟩] at haccept
      cases haccept
  | taken hbacklog hvisits =>
      have harrived := hread t.visit (by rw [hvisits]; exact List.mem_singleton_self _)
      rw [Scene.arrived_of_socket? (hsound.socket ▸ hcarried.far)] at harrived
      exact ⟨hvisits, hbacklog, harrived⟩

/-- At rest nothing is left of what the destination has written. -/
theorem heard_of_rest (h : Good e s (.linked t)) (hrest : s.AtRest) :
    t.down.arrived = [] ∧ t.down.undelivered = [] ∧ t.down.queued = [] := by
  obtain ⟨config, r, received, hn, hd⟩ := h.node?_zero
  obtain ⟨hsound, hcarried, -⟩ := h.place
  -- the sink's queue first: only with room in it can the handler hand over, and only when it has
  -- handed over does it read
  have hqueue : r.hub.queue.queue = [] := by
    cases hqueue : r.hub.queue.queue with
    | nil => rfl
    | cons message rest =>
        have hdeliver : s.world.act (.deliver 0) = none := act_of_rest hrest trivial
        rw [World.act_deliver_of_taken hn (Client.deliver_plain hqueue)] at hdeliver
        cases hdeliver
  have hqueued : t.down.queued = [] := hd.queued.symm.trans hqueue
  cases hslot : t.slot.handler? with
  | none => exact ⟨(hsound.ended hslot).2.1, (hsound.ended hslot).2.2, hqueued⟩
  | some handler =>
      have ha := hd.attached_one (Slot.eq_serving hslot)
      have hhandles := hsound.handles handler hslot
      have hundelivered : t.down.undelivered = [] := by
        have hdispatch : s.world.act (.dispatch 0 1) = none := act_of_rest hrest trivial
        rw [World.act_dispatch_eq hn, Client.dispatch_plain, Option.map_map,
          Option.map_eq_none_iff] at hdispatch
        exact hhandles.undelivered.symm.trans
          (Hub.undelivered_eq_nil ha hd.delivering hd.room hqueue hdispatch)
      have harrived : t.down.arrived = [] := by
        by_contra hne
        obtain ⟨byte, rest, hbytes⟩ := List.exists_cons_of_ne_nil hne
        have hselecting : s.world.selecting? 0 1 =
            some (.client (.plain config r), ⟨1, e.socket, handler⟩) := by
          rw [World.selecting?_eq hn (show _ = some r.hub from rfl), Hub.selecting?_eq_some_iff.2
            ⟨ha, hhandles.undelivered.trans hundelivered⟩]
          rfl
        have hread : s.world.act (.read 0 1 1) = none := act_of_rest hrest trivial
        have htake : (t.near e).arrived.take 1 = [byte] := by
          rw [show (t.near e).arrived = byte :: rest from hbytes]
          rfl
        rw [World.act_read_of_arrived hselecting hcarried.near hne, htake, if_neg (by simp),
          World.react_of_going hn (Client.react_plain ha (by simp)) rfl] at hread
        cases hread
      exact ⟨harrived, hundelivered, hqueued⟩

/-- **At rest the frame has arrived on the one connection, and so have the replies.** -/
theorem rest (h : Good e s stage) (hrest : s.AtRest) :
    s.connections = 1 ∧ s.visits.length = 1 ∧ s.got = e.frame ∧
      ∀ frames left, Framing s.said frames left →
        s.world.messages 0 = frames.map (Message.mk · e.destination) := by
  obtain ⟨t, rfl⟩ := h.linked_of_rest hrest
  obtain ⟨hvisits, hbacklog, hread⟩ := h.read_of_rest hrest
  obtain ⟨harrived, hundelivered, hqueued⟩ := h.heard_of_rest hrest
  have hframe := h.place.1.frame
  rw [hread, List.append_nil] at hframe
  refine ⟨?_, by rw [hvisits]; rfl, h.got_said.1.trans hframe, fun frames left hframing => ?_⟩
  · rw [Scene.connections, hvisits, h.listener, hbacklog]
    rfl
  · rw [h.got_said.2] at hframing
    rw [h.messages_eq]
    exact h.place.1.hears.taken_eq harrived hundelivered hqueued hframing

end Good

end Errand

end Framewire
