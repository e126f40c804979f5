/-
**What comes of an errand once the client was stopped.**

A client that is stopped closes its connection, if it has one, and dials no more.  What it has written
by then goes on to the destination all the same, which finds nothing else there: all of the frame, if
the client had been connected; a part of it, if its slot was cut off while it wrote; and nothing, if
there never was a connection.

Main definitions:

* `World.Halted` — no connector runs;
* `Network.Holds` — what has arrived at a socket and was not read;
* `Errand.Remains`, `Errand.Over` — what a stopped client has left at the destination.

Main results:

* `World.Halted.act` — connectors that do not run leave the network alone;
* `Errand.Good.remains` — what has come to the destination before a stop;
* `Errand.Good.stop`, `Errand.Good.cut` — what a stop leaves;
* `Errand.Over.step`, `Errand.Over.run` — **nothing is added to it and nothing is lost of it**;
* `Errand.Over.got_eq`, `Errand.Over.arrives` — at rest the destination has got all of it, and it can
  get all of it at any time.
-/

import Framewire.CommandLine.Sending
import Framewire.Proofs.ErrandRuns

set_option autoImplicit false

namespace Framewire

/-! ### Connectors that do not run -/

namespace Machine

variable {m m' : Machine} {n n' : Network} {now : Nat}

theorem isRunning_of_standing? (h : m'.standing? = m.standing?) : m'.isRunning = m.isRunning := by
  have hrunning : ∀ m : Machine, m.isRunning = (m.standing?.map (·.2.isRunning)).getD true := by
    intro m
    cases m <;> rfl
  rw [hrunning, h, hrunning]

/-- A connector that does not run has no connections and no slots. -/
theorem hub?_of_not_running (hm : m.isRunning = false) : m.hub? = none ∧ m.round? = none := by
  cases m with
  | server s =>
      have hnone : s.life.running = none := Lifecycle.running_eq_none_iff.2 hm
      exact ⟨by rw [hub?, hnone, Option.map_none], rfl⟩
  | client c =>
      have hnone : c.life.running = none := Lifecycle.running_eq_none_iff.2 hm
      exact ⟨by rw [hub?, hnone, Option.map_none], hnone⟩
  | pool r => simp [isRunning] at hm

/-- **A connector that does not run only gives its sink messages that wait for it.** -/
theorem Moves.of_not_running (h : m.Moves now n n' m') (hm : m.isRunning = false) :
    n' = n ∧ ∃ queue ∈ m.queues, queue.queue ≠ [] := by
  obtain ⟨hhub, hround⟩ := hub?_of_not_running hm
  cases h with
  | accept heq hrunning _ _ =>
      rw [heq, hub?, hrunning] at hhub
      cases hhub
  | react hsome _ _ _ _ =>
      rw [hhub] at hsome
      cases hsome
  | dispatch hdispatch =>
      obtain ⟨hub, a, hsome, -⟩ := attached?_of_dispatch hdispatch
      rw [hhub] at hsome
      cases hsome
  | deliver hdeliver =>
      obtain ⟨queue, hqueue, hmessage⟩ := queue?_of_deliver hdeliver
      refine ⟨rfl, queue, mem_queues_of_queue? hqueue, fun hnil => ?_⟩
      simp [hnil] at hmessage
  | dial hr _ => rw [hround] at hr; cases hr
  | settle hr _ => rw [hround] at hr; cases hr
  | giveUp hr _ => rw [hround] at hr; cases hr
  | evict hr _ => rw [hround] at hr; cases hr

end Machine

/-- No connector runs. -/
def World.Halted (w : World) : Prop := ∀ n ∈ w.nodes, n.machine.isRunning = false

namespace World.Halted

variable {w w' : World} {action : Action}

/-- **Connectors that do not run leave the network alone**, and do not begin to run. -/
theorem act (h : w.Halted) (hact : w.act action = some w') :
    w'.Halted ∧ w'.network = w.network := by
  obtain ⟨ms, -, rfl⟩ | ⟨node, -, n, network, machine, received, notices, hn, hmoves, -, rfl⟩ :=
    act_spec hact
  · exact ⟨h, rfl⟩
  · have hrunning := h n (List.mem_of_getElem? hn)
    refine ⟨fun n' hn' => ?_, (hmoves.of_not_running hrunning).1⟩
    rcases List.mem_or_eq_of_mem_set hn' with hn' | rfl
    · exact h n' hn'
    · exact (Machine.isRunning_of_standing? hmoves.standing?_eq).trans hrunning

/-- Connectors that do not run do nothing when no message waits for their sinks. -/
theorem act_eq_none (h : w.Halted)
    (hqueues : ∀ n ∈ w.nodes, ∀ queue ∈ n.machine.queues, queue.queue = []) {node : Nat}
    (hnode : action.node? = some node) : w.act action = none := by
  cases hact : w.act action with
  | none => rfl
  | some w' =>
      obtain ⟨ms, rfl, -⟩ | ⟨node, -, n, network, machine, received, notices, hn, hmoves, -⟩ :=
        act_spec hact
      · cases hnode
      · have hmem := List.mem_of_getElem? hn
        obtain ⟨-, queue, hqueue, hne⟩ := hmoves.of_not_running (h n hmem)
        exact absurd (hqueues n hmem queue hqueue) hne

end World.Halted

/-! ### What has arrived -/

namespace Network

variable {n n' : Network} {id i most : Nat} {bytes chunk : Bytes}

/-- So much has arrived at a socket and was not read. -/
def Holds (n : Network) (id : Nat) (bytes : Bytes) : Prop :=
  ∃ s, n.socket? id = some s ∧ s.arrived = bytes ∧ s.twin ≠ id

theorem listener?_write (n : Network) (id : Nat) (bytes : Bytes) (listener : Nat) :
    (n.write id bytes).2.listener? listener = n.listener? listener := by
  rw [write]
  split
  · rfl
  · split
    · rfl
    · split <;> rfl

namespace Holds

theorem modify_of_ne (h : n.Holds id bytes) (hne : i ≠ id) (f : Socket → Socket) :
    (n.modifySocket i f).Holds id bytes := by
  obtain ⟨s, hs, harrived⟩ := h
  exact ⟨s, by rw [socket?_modifySocket, if_neg hne, hs], harrived⟩

/-- A change that lets the bytes be. -/
theorem modify (h : n.Holds id bytes) {f : Socket → Socket}
    (hf : ∀ s, (f s).arrived = s.arrived ∧ (f s).twin = s.twin) (i : Nat) :
    (n.modifySocket i f).Holds id bytes := by
  by_cases hi : i = id
  · subst hi
    obtain ⟨s, hs, harrived, htwin⟩ := h
    refine ⟨f s, ?_, (hf s).1.trans harrived, by rwa [(hf s).2]⟩
    rw [socket?_modifySocket, if_pos rfl, hs, Option.map_some]
  · exact h.modify_of_ne hi f

/-- What is written into a socket does not arrive there. -/
theorem write (h : n.Holds id bytes) (chunk : Bytes) : (n.write id chunk).2.Holds id bytes := by
  have hholds := h
  obtain ⟨s, hs, -, htwin⟩ := h
  rw [Network.write, hs]
  dsimp only
  split
  · exact hholds
  · split
    · exact hholds.modify_of_ne htwin _
    · exact hholds.modify (by simp) id

theorem finish (h : n.Holds id bytes) (i : Nat) : (n.finish i).Holds id bytes := by
  rw [Network.finish]
  split
  · exact h
  · split
    · exact (h.modify (by simp) _).modify (by simp) _
    · exact h

/-- When one socket is closed, nothing is lost of what has arrived at another. -/
theorem close_of_ne (h : n.Holds id bytes) (hne : i ≠ id) : (n.close i).Holds id bytes := by
  rw [close]
  split
  · exact h
  · split
    · exact h
    · split
      · exact (h.finish i).modify (by simp) _
      · rw [abort]
        split
        · exact h
        · exact (h.modify_of_ne hne _).modify (by simp) _

/-- A socket is closed of which everything was read. -/
theorem close (h : n.Holds id []) : (n.close id).Holds id [] := by
  have hholds := h
  obtain ⟨s, hs, harrived, -⟩ := h
  rw [Network.close, hs]
  dsimp only
  split
  · exact hholds
  · rw [if_pos (by rw [harrived]; rfl)]
    exact (hholds.finish id).modify (by simp) _

theorem read (h : n.Holds id bytes) (hread : n.read id most = (.bytes chunk, n')) :
    ∃ rest, bytes = chunk ++ rest ∧ n'.Holds id rest := by
  obtain ⟨s, hs, rfl, htwin⟩ := h
  obtain ⟨rfl, rfl⟩ := of_read_bytes hs hread
  refine ⟨s.arrived.drop most, (List.take_append_drop ..).symm,
    { s with arrived := s.arrived.drop most }, ?_, rfl, htwin⟩
  rw [socket?_modifySocket, if_pos rfl, hs, Option.map_some]

end Holds

end Network

namespace Errand

variable {e : Errand} {s s' : Scene} {n n' : Network} {stage : Stage} {x : Step} {steps : List Step}
  {visits : List Visit} {v : Visit} {w' : World} {number count slot i : Nat} {sent : Bytes}

/-! ### What a client has left -/

/-- What a client has left at the destination: no connection, or one with what was sent. -/
inductive Remains (e : Errand) (n : Network) (visits : List Visit) : Nat → Bytes → Prop where
  | nothing (hbacklog : n.backlog e.listener = []) (hvisits : visits = []) : Remains e n visits 0 []
  | pending {sent : Bytes} (hbacklog : n.backlog e.listener = [e.socket + 1]) (hvisits : visits = [])
      (hholds : n.Holds (e.socket + 1) sent) : Remains e n visits 1 sent
  | taken {v : Visit} {rest : Bytes} (hbacklog : n.backlog e.listener = []) (hvisits : visits = [v])
      (hsocket : v.socket = e.socket + 1) (hholds : n.Holds (e.socket + 1) rest) :
      Remains e n visits 1 (v.got ++ rest)

/-- What has come to the destination stays there when the client closes its connection. -/
theorem Remains.close (h : Remains e n visits number sent) :
    Remains e (n.close e.socket) visits number sent := by
  have hbacklog : (n.close e.socket).backlog e.listener = n.backlog e.listener :=
    congrArg (fun l => (l.map Listener.backlog).getD []) (Network.listener?_close ..)
  have hne : e.socket ≠ e.socket + 1 := Nat.ne_of_lt (Nat.lt_succ_self _)
  cases h with
  | nothing hnone hvisits => exact .nothing (hbacklog.trans hnone) hvisits
  | pending hpending hvisits hholds =>
      exact .pending (hbacklog.trans hpending) hvisits (hholds.close_of_ne hne)
  | taken hnone hvisits hsocket hholds =>
      exact .taken (hbacklog.trans hnone) hvisits hsocket (hholds.close_of_ne hne)

/-- The client does not run any more, and has left so many connections and so many bytes. -/
structure Over (e : Errand) (number : Nat) (sent : Bytes) (s : Scene) : Prop where
  listener : s.listener = e.listener
  halted : s.world.Halted
  remains : Remains e s.world.network s.visits number sent

namespace Over

/-- Only a connection that was taken can be used. -/
theorem of_visit (h : Over e number sent s) (hv : s.visits[i]? = some v) :
    i = 0 ∧ number = 1 ∧ s.visits = [v] ∧ v.socket = e.socket + 1 ∧
      s.world.network.backlog e.listener = [] ∧
      ∃ rest, s.world.network.Holds (e.socket + 1) rest ∧ sent = v.got ++ rest := by
  obtain ⟨-, -, hremains⟩ := h
  cases hremains with
  | nothing _ hvisits => simp [hvisits] at hv
  | pending _ hvisits _ => simp [hvisits] at hv
  | taken hbacklog hvisits hsocket hholds =>
      rw [hvisits, List.getElem?_singleton] at hv
      split at hv
      · next hi =>
        obtain rfl := Option.some.inj hv
        exact ⟨hi, rfl, hvisits, hsocket, hbacklog, _, hholds, rfl⟩
      · simp at hv

/-- The destination has done something on the connection. -/
theorem set (h : Over e 1 sent s) (hvisits : s.visits = [v]) {u : Visit}
    (hsocket : u.socket = e.socket + 1) (hbacklog : s.world.network.backlog e.listener = [])
    (hlistener : n.listener? e.listener = s.world.network.listener? e.listener) {rest : Bytes}
    (hholds : n.Holds (e.socket + 1) rest) (hsent : sent = u.got ++ rest) :
    Over e 1 sent (s.set 0 u n) := by
  subst hsent
  have hvisits' : (s.set 0 u n).visits = [u] := by
    rw [Scene.set, hvisits]
    rfl
  refine ⟨h.listener, h.halted, .taken ?_ hvisits' hsocket hholds⟩
  exact (congrArg (fun l => (l.map Listener.backlog).getD []) hlistener).trans hbacklog

/-- The destination takes the connection. -/
theorem accept (h : Over e number sent s) (hstep : s.step .accept = some s') :
    Over e number sent s' := by
  obtain ⟨⟨socket, network⟩, haccept, hstep⟩ := Option.bind_eq_some_iff.1 hstep
  obtain rfl := Option.some.inj hstep
  rw [h.listener] at haccept
  obtain ⟨rest, hbacklog, rfl⟩ := Network.accept_eq_some_iff.1 haccept
  obtain ⟨hlistener, hhalted, hremains⟩ := h
  cases hremains with
  | nothing hnone _ => simp [hnone] at hbacklog
  | taken hnone _ _ _ => simp [hnone] at hbacklog
  | pending hpending hvisits hholds =>
      obtain ⟨rfl, rfl⟩ := List.cons.inj (hpending.symm.trans hbacklog)
      have hvisits' : s.visits ++ [{ socket := e.socket + 1 }] = [{ socket := e.socket + 1 }] := by
        rw [hvisits, List.nil_append]
      exact ⟨hlistener, hhalted, .taken (Network.backlog_accept hbacklog) hvisits' rfl hholds⟩

/-- The destination reads. -/
theorem receive (h : Over e number sent s) (hstep : s.step (.receive i count) = some s') :
    Over e number sent s' := by
  obtain ⟨v, hv, hstep⟩ := Option.bind_eq_some_iff.1 hstep
  obtain ⟨rfl, rfl, hvisits, hsocket, hbacklog, rest, hholds, rfl⟩ := h.of_visit hv
  split at hstep
  · next byte bytes network hread =>
    obtain rfl := Option.some.inj hstep
    rw [hsocket] at hread
    obtain ⟨left, rfl, hleft⟩ := hholds.read hread
    have hlistener : network.listener? e.listener = s.world.network.listener? e.listener := by
      obtain ⟨socket, hs, -⟩ := hholds
      rw [(Network.of_read_bytes hs hread).2]
      rfl
    exact h.set hvisits hsocket hbacklog hlistener hleft (List.append_assoc ..).symm
  · simp at hstep

/-- **Nothing is added to what the client has left, and nothing is lost of it.** -/
theorem step (h : Over e number sent s) (hcalm : s.Calm x) (hstep : s.step x = some s') :
    Over e number sent s' := by
  cases x with
  | accept => exact h.accept hstep
  | receive i count => exact h.receive hstep
  | reply i chunk =>
      obtain ⟨v, hv, hstep⟩ := Option.bind_eq_some_iff.1 hstep
      obtain ⟨rfl, rfl, hvisits, hsocket, hbacklog, rest, hholds, hsent⟩ := h.of_visit hv
      have hlistener := Network.listener?_write s.world.network (e.socket + 1) chunk e.listener
      have hleft := hholds.write chunk
      rw [← hsocket] at hlistener hleft
      generalize s.world.network.write v.socket chunk = written at hstep hlistener hleft
      split at hstep
      · obtain rfl := Option.some.inj hstep
        exact h.set (u := { v with said := v.said ++ chunk }) hvisits hsocket hbacklog hlistener
          (hsocket ▸ hleft) hsent
      · simp at hstep
  | finish i =>
      obtain ⟨v, hv, hstep⟩ := Option.bind_eq_some_iff.1 hstep
      obtain ⟨rfl, rfl, hvisits, hsocket, hbacklog, rest, hholds, hsent⟩ := h.of_visit hv
      obtain rfl := Option.some.inj hstep
      exact h.set hvisits hsocket hbacklog (Network.listener?_finish ..) (hholds.finish _) hsent
  | leave i =>
      obtain ⟨v, hv, hstep⟩ := Option.bind_eq_some_iff.1 hstep
      obtain ⟨rfl, rfl, hvisits, hsocket, hbacklog, rest, hholds, hsent⟩ := h.of_visit hv
      obtain rfl := Option.some.inj hstep
      -- nothing is left to be read, or the destination would not leave
      have hall := hholds
      obtain ⟨socket, hs, harrived, -⟩ := hholds
      obtain rfl : rest = [] := harrived.symm.trans (hcalm v hv socket (hsocket ▸ hs))
      rw [hsocket]
      exact h.set hvisits hsocket hbacklog (Network.listener?_close ..) hall.close hsent
  | act action =>
      obtain ⟨world, hact, rfl⟩ := Option.map_eq_some_iff.1 hstep
      obtain ⟨hhalted, hnetwork⟩ := h.halted.act hact
      exact ⟨h.listener, hhalted, by rw [hnetwork]; exact h.remains⟩

/-- **What the client has left stays what it is in every undisturbed run.** -/
theorem run (h : Over e number sent s) (hsteps : s.Undisturbed steps) :
    Over e number sent (s.run steps) := by
  induction steps generalizing s with
  | nil => exact h
  | cons x steps ih =>
      obtain ⟨hcalm, hsteps⟩ := hsteps
      refine ih ?_ hsteps
      cases hstep : s.step x with
      | none =>
          rw [Scene.after, hstep, Option.getD_none]
          exact h
      | some t =>
          rw [Scene.after_of_step hstep]
          exact h.step hcalm hstep

/-! ### What the destination gets -/

theorem connections_eq (h : Over e number sent s) : s.connections = number := by
  obtain ⟨hlistener, -, hremains⟩ := h
  rw [Scene.connections, hlistener]
  cases hremains with
  | nothing hbacklog hvisits => rw [hbacklog, hvisits]; rfl
  | pending hbacklog hvisits _ => rw [hbacklog, hvisits]; rfl
  | taken hbacklog hvisits _ _ => rw [hbacklog, hvisits]; rfl

theorem got_prefix (h : Over e number sent s) : s.got <+: sent := by
  obtain ⟨-, -, hremains⟩ := h
  cases hremains with
  | nothing _ hvisits => simp [Scene.got, hvisits]
  | pending _ hvisits _ => simp [Scene.got, hvisits]
  | taken _ hvisits _ _ => simp [Scene.got, hvisits]

/-- **At rest the destination has got all that was sent.** -/
theorem got_eq (h : Over e number sent s) (hrest : s.AtRest) : s.got = sent := by
  obtain ⟨hlistener, -, hremains⟩ := h
  obtain ⟨haccept, hread, -⟩ := Scene.atRest_iff.1 hrest
  cases hremains with
  | nothing _ hvisits => simp [Scene.got, hvisits]
  | pending hbacklog _ _ =>
      rw [hlistener, Network.accept_eq_some_iff.2 ⟨[], hbacklog, rfl⟩] at haccept
      cases haccept
  | @taken v rest _ hvisits hsocket hholds =>
      have harrived := hread v (by rw [hvisits]; exact List.mem_singleton_self _)
      obtain ⟨socket, hs, rfl, -⟩ := hholds
      rw [Scene.arrived_of_socket? (hsocket ▸ hs)] at harrived
      simp [Scene.got, hvisits, harrived]

/-- On the connection that it has taken, the destination can read all that is left. -/
theorem arrives_of_visit (h : Over e number sent s) (hvisits : s.visits = [v]) :
    ∃ (work : List Step) (t : Scene), (∀ x ∈ work, x.IsWork) ∧ s.take? work = some t ∧
      t.got = sent := by
  have hv : s.visits[0]? = some v := by
    rw [hvisits]
    rfl
  obtain ⟨-, -, -, hsocket, -, rest, ⟨socket, hs, harrived, -⟩, rfl⟩ := h.of_visit hv
  have heq : s.arrived v = rest := (Scene.arrived_of_socket? (hsocket ▸ hs)).trans harrived
  by_cases hrest : rest = []
  · exact ⟨[], s, by simp, rfl, by simp [Scene.got, hvisits, hrest]⟩
  · have hreceive := (Scene.step_receive hv rest.length).trans
      (if_neg (by rwa [heq, List.take_length]))
    refine ⟨[.receive 0 rest.length], _, List.forall_mem_singleton.2 trivial,
      Option.bind_eq_some_iff.2 ⟨_, hreceive, rfl⟩, ?_⟩
    simp [Scene.got, Scene.set, hvisits, heq]

/-- **The destination can get all that was sent.** -/
theorem arrives (h : Over e number sent s) :
    ∃ (work : List Step) (t : Scene), (∀ x ∈ work, x.IsWork) ∧ s.take? work = some t ∧
      t.got = sent := by
  have hover := h
  obtain ⟨hlistener, -, hremains⟩ := h
  cases hremains with
  | nothing _ hvisits => exact ⟨[], s, by simp, rfl, by simp [Scene.got, hvisits]⟩
  | taken _ hvisits _ _ => exact hover.arrives_of_visit hvisits
  | pending hbacklog hvisits _ =>
      have haccept : s.world.network.accept e.listener = some (e.socket + 1, _) :=
        Network.accept_eq_some_iff.2 ⟨[], hbacklog, rfl⟩
      obtain ⟨s', hstep, hvisits'⟩ : ∃ s', s.step .accept = some s' ∧
          s'.visits = [{ socket := e.socket + 1 }] := by
        rw [Scene.step, hlistener, haccept]
        exact ⟨_, rfl, by rw [hvisits]; rfl⟩
      obtain ⟨work, t, hwork, htake, hgot⟩ := (hover.accept hstep).arrives_of_visit hvisits'
      exact ⟨.accept :: work, t, List.forall_mem_cons.2 ⟨trivial, hwork⟩,
        Option.bind_eq_some_iff.2 ⟨s', hstep, htake⟩, hgot⟩

end Over

/-! ### What a stop leaves -/

/-- The world in which the client was stopped. -/
def stopped (w : World) : World := match w.node? 0 with
  | some n => w.stop 0 n.machine
  | none => w

/-- A client that is alone in its world has been stopped: its connections are closed, and only the
queue to its sink is left. -/
theorem stopped_eq {config : ClientConfig} {r : Client.Round} {received : List Message} {w : World}
    (hnodes : w.nodes = [⟨.client (.plain config r), received⟩]) :
    (stopped w).Halted ∧
      (stopped w).network = (r.hub.attached.map (·.socket)).foldl Network.close w.network ∧
      ∀ n ∈ (stopped w).nodes, n.machine.queues = [r.hub.retire] := by
  have hn : w.node? 0 = some ⟨.client (.plain config r), received⟩ := by
    rw [World.node?, hnodes]
    rfl
  rw [stopped, hn]
  have hmem : ∀ n ∈ (w.stop 0 (.client (.plain config r))).nodes,
      n = ⟨.client ((Client.plain config r).stop w.network).2.1, received⟩ := by
    intro n hmem
    have hmem : n ∈ w.nodes.modify 0 _ := hmem
    rw [hnodes] at hmem
    exact List.mem_singleton.1 hmem
  refine ⟨fun n hn' => ?_, rfl, fun n hn' => ?_⟩
  · rw [hmem n hn']
    rfl
  · rw [hmem n hn']
    rfl

/-- A stop closes the connection of the client, if it has one. -/
theorem close_attached (e : Errand) (n : Network) (stage : Stage) :
    ((stage.attached? e).toList.map (·.socket)).foldl Network.close n = n ∨
      ((stage.attached? e).toList.map (·.socket)).foldl Network.close n = n.close e.socket := by
  cases ha : stage.attached? e with
  | none => exact .inl rfl
  | some a =>
      cases stage with
      | waiting => cases ha
      | dialing => cases ha
      | linked t =>
          obtain ⟨handler, -, rfl⟩ := Option.map_eq_some_iff.1 ha
          exact .inr rfl

namespace Good

/-- What has come to the destination so far, read or not: nothing, unless the client has been
connected. -/
theorem remains (h : Good e s stage) :
    Remains e s.world.network s.visits s.connections
      (if s.connections = 0 then [] else e.frame) := by
  have hplace := h.place
  rw [Scene.connections, h.listener]
  cases stage with
  | waiting =>
      rw [hplace.1.backlog, hplace.2.2]
      exact .nothing hplace.1.backlog rfl
  | dialing =>
      rw [hplace.1.backlog, hplace.2.2]
      exact .nothing hplace.1.backlog rfl
  | linked t =>
      obtain ⟨hsound, hcarried, hseen⟩ := hplace
      have hholds : s.world.network.Holds (e.socket + 1) t.rest :=
        ⟨_, hcarried.far, rfl, Nat.ne_of_lt (Nat.lt_succ_self _)⟩
      cases hseen with
      | pending hpending hvisits hvisit =>
          have hframe := hsound.frame
          rw [hvisit, List.nil_append] at hframe
          rw [hpending, hvisits, ← hframe]
          exact .pending hpending rfl hholds
      | taken hnone hvisits =>
          rw [hnone, hvisits, ← hsound.frame]
          exact .taken hnone rfl hsound.socket hholds

/-- **A stop leaves what was sent.** -/
theorem stop (h : Good e s stage) :
    Over e s.connections (if s.connections = 0 then [] else e.frame)
      { s with world := stopped s.world } := by
  obtain ⟨config, r, received, hnodes, hd⟩ := h.client
  obtain ⟨hhalted, hnetwork, -⟩ := stopped_eq hnodes
  refine ⟨h.listener, hhalted, ?_⟩
  rw [hnetwork, hd.attached]
  obtain hsame | hclosed := close_attached e s.world.network stage
  · rw [hsame]
    exact h.remains
  · rw [hclosed]
    exact h.remains.close

/-- **A slot that is cut off while it writes leaves a beginning of the frame.** -/
theorem cut (h : Good e s stage) (hcut : s.world.cutShort 0 slot count = some w') :
    s.connections = 0 ∧ Over e 1 (e.frame.take count) { s with world := stopped w' } := by
  obtain ⟨config, r, received, hnodes, hd⟩ := h.client
  obtain ⟨⟨machine, round⟩, hround, hslot⟩ := Option.bind_eq_some_iff.1 hcut
  obtain ⟨task, htask, hphased⟩ := Option.bind_eq_some_iff.1 hslot
  -- only a slot that dials can be cut off, and it has no connection yet
  obtain rfl : round = r := by
    rw [World.round?, World.node?, hnodes] at hround
    exact (Prod.mk.inj (Option.some.inj hround)).2.symm
  obtain ⟨rfl, ⟨-, hphase⟩ | ⟨rfl, -⟩ | ⟨t, -, -, hphase⟩ | hphase⟩ := hd.of_task? htask
  · simp [hphase] at hphased
  · obtain ⟨-, rfl⟩ := Client.Round.eq_one_of_task? hd.pool htask
    obtain ⟨hreach, hnumber, hvisits⟩ := h.place
    dsimp only at hphased
    rw [Network.dial_eq hnumber hreach.obstacle hreach.silent hreach.reach] at hphased
    dsimp only at hphased
    rw [Network.write_connect hnumber] at hphased
    obtain rfl := Option.some.inj hphased
    let n := s.world.network.connected e.socket e.listener e.destination (e.frame.take count)
    let w' : World := { s.world with network := n.close e.socket }
    obtain ⟨hhalted, hnetwork, -⟩ := stopped_eq (w := w') hnodes
    rw [hd.attached] at hnetwork
    have hsocket : n.socket? (e.socket + 1) = some _ :=
      (Network.socket?_connected hnumber e.listener e.destination (e.frame.take count) _).trans
        ((if_neg (Nat.succ_ne_self _)).trans (if_pos rfl))
    have hremains : Remains e n s.visits 1 (e.frame.take count) :=
      .pending (hreach.backlog_connected hnumber _) hvisits
        ⟨_, hsocket, rfl, Nat.ne_of_lt (Nat.lt_succ_self _)⟩
    refine ⟨?_, h.listener, hhalted, ?_⟩
    · rw [Scene.connections, hvisits, h.listener, hreach.backlog]
      rfl
    · rw [hnetwork]
      exact hremains.close
  · simp [hphase] at hphased
  · simp [hphase] at hphased

end Good

end Errand

end Framewire
