/-
**Where nothing is left to do.**

Most of what connectors do by themselves brings a payload nearer to a sink: a connection is taken in,
a handler reads, hands over or writes, a sink gets a message, a slot dials.  A world is quiet if no
such action is possible.  That is so where nothing waits: no connection, no byte, no payload and no
message; which can be seen by looking.  It is also so where none of the actions is possible that are
tried by the schedule that takes the first possible one, because whatever is possible at any time
stands in that list, or something stands there in its place.

Main definitions:

* `Wears` — work takes effort off whatever it is done on;
* `World.Action.IsWork` — the actions that bring payloads nearer to sinks;
* `World.Quiet` — no such action is possible;
* `Machine.Still`, `World.Still` — nothing waits at a connector, or anywhere in a world.

Main results:

* `Wears.length_le`, `Wears.exists_rest` — work comes to an end, and can be done until there is rest;
* `World.Still.quiet` — **no work is possible where nothing waits**;
* `World.isSome_act_of_same`, `World.mem_actions_of_act` — whether work is possible is not a matter of
  time, and work that is possible is tried;
* `World.quiet_of_actions` — **nor is any possible where none is of the actions that are tried**.
-/

import Framewire.Proofs.ConnectionViews
import Framewire.Proofs.Usage

set_option autoImplicit false

namespace Framewire

/-! ### Work that comes to an end -/

section Wears

variable {σ α : Type} {step : σ → α → Option σ} {IsWork : α → Prop} {P : Nat → σ → Prop}

/-- Work takes effort off whatever it is done on, of which so much effort is left. -/
def Wears (step : σ → α → Option σ) (IsWork : α → Prop) (P : Nat → σ → Prop) : Prop :=
  ∀ effort s x t, P effort s → IsWork x → step s x = some t → ∃ left < effort, P left t

/-- **Work comes to an end.** -/
theorem Wears.length_le (h : Wears step IsWork P) {effort : Nat} {s t : σ} (hs : P effort s)
    {work : List α} (hwork : ∀ x ∈ work, IsWork x) (htake : work.foldlM step s = some t) :
    work.length ≤ effort := by
  induction work generalizing s effort with
  | nil => exact Nat.zero_le _
  | cons x work ih =>
      rw [List.forall_mem_cons] at hwork
      obtain ⟨s', hstep, htake⟩ := Option.bind_eq_some_iff.1 htake
      obtain ⟨left, hlt, hs'⟩ := h _ _ _ _ hs hwork.1 hstep
      exact Nat.lt_of_le_of_lt (ih hs' hwork.2 htake) hlt

/-- **Work can be done until there is rest.** -/
theorem Wears.exists_rest (h : Wears step IsWork P) {effort : Nat} {s : σ} (hs : P effort s) :
    ∃ (work : List α) (t : σ), (∀ x ∈ work, IsWork x) ∧ work.foldlM step s = some t ∧
      ∀ x, IsWork x → step t x = none := by
  -- induction on the effort: where there is no rest, some work is possible and takes effort off
  induction effort using Nat.strongRecOn generalizing s with
  | ind effort ih =>
      by_cases hrest : ∀ x, IsWork x → step s x = none
      · exact ⟨[], s, by simp, rfl, hrest⟩
      · obtain ⟨x, hx⟩ := Classical.not_forall.1 hrest
        obtain ⟨hwork, hne⟩ := Classical.not_imp.1 hx
        obtain ⟨s', hstep⟩ := Option.ne_none_iff_exists'.1 hne
        obtain ⟨left, hlt, hs'⟩ := h _ _ _ _ hs hwork hstep
        obtain ⟨work, t, hwork', htake, ht⟩ := ih left hlt hs'
        refine ⟨x :: work, t, List.forall_mem_cons.2 ⟨hwork, hwork'⟩, ?_, ht⟩
        exact Option.bind_eq_some_iff.2 ⟨s', hstep, htake⟩

end Wears

/-! ### Connectors at which nothing waits -/

namespace Machine

/-- The queues to the sink of a connector: those of earlier rounds, and that of the round that
runs. -/
def queues (m : Machine) : List SinkQueue := m.retired ++ (m.hub?.map (·.queue)).toList

/-- Nothing waits at a connector: no message for its sink, nothing at any of its connections, and no
slot for a dial. -/
def Still (n : Network) (m : Machine) : Prop :=
  (∀ q ∈ m.queues, q.queue = []) ∧
    (∀ hub ∈ m.hub?, ∀ a ∈ hub.attached, a.handler.undelivered = [] ∧
      (∀ s ∈ n.socket? a.socket, s.arrived = [] ∧ s.ending = none) ∧
      (n.socket? a.socket).isSome = true ∧ m.nextPayload a.id = .empty) ∧
    ∀ r ∈ m.round?, ∀ task ∈ r.pool.tasks, task.phase = .connected

instance (n : Network) (m : Machine) : Decidable (m.Still n) :=
  inferInstanceAs (Decidable (_ ∧ _ ∧ _))

variable {n : Network} {m : Machine}

theorem mem_queues_of_queue? {earlier : Option Nat} {queue : SinkQueue}
    (hqueue : m.queue? earlier = some queue) : queue ∈ m.queues := by
  cases earlier with
  | none => exact List.mem_append_right _ (Option.mem_toList.2 hqueue)
  | some k => exact List.mem_append_left _ (List.mem_of_getElem? hqueue)

theorem Still.deliver (h : m.Still n) (earlier : Option Nat) : m.deliver earlier = none := by
  cases hdeliver : m.deliver earlier with
  | none => rfl
  | some delivered =>
      obtain ⟨queue, hqueue, hmessage⟩ := queue?_of_deliver hdeliver
      simp [h.1 queue (mem_queues_of_queue? hqueue)] at hmessage

theorem Still.dispatch (h : m.Still n) (id : Nat) : m.dispatch id = none := by
  have hnone : ∀ hub ∈ m.hub?, hub.dispatch id = none := by
    intro hub hhub
    cases hdispatch : hub.dispatch id with
    | none => rfl
    | some hub' =>
        obtain ⟨a, message, rest, ha, hundelivered, -⟩ := Hub.dispatch_eq_some_iff.1 hdispatch
        simp [(h.2.1 hub hhub a (List.mem_of_find?_eq_some ha)).1] at hundelivered
  cases m with
  | server s =>
      cases hrunning : s.life.running with
      | none => simp [Machine.dispatch, Server.dispatch, hrunning]
      | some round =>
          have := hnone round.hub (by simp [hub?, hrunning])
          simp [Machine.dispatch, Server.dispatch, hrunning, this]
  | client c =>
      cases hrunning : c.life.running with
      | none => simp [Machine.dispatch, hrunning]
      | some round =>
          have := hnone round.hub (by simp [hub?, hrunning])
          simp [Machine.dispatch, hrunning, this]
  | pool r => simp [Machine.dispatch, hnone r.hub rfl]

end Machine

/-! ### Worlds in which nothing waits -/

/-- An action that brings payloads nearer to sinks. -/
def World.Action.IsWork : World.Action → Prop
  | .pass _ | .expire _ _ | .giveUp _ _ => False
  | _ => True

/-- No work is possible. -/
def World.Quiet (w : World) : Prop := ∀ action : World.Action, action.IsWork → w.act action = none

theorem World.Quiet.false_of_act {w w' : World} (hquiet : w.Quiet) {action : World.Action}
    (hact : w.act action = some w') (hwork : action.IsWork) : False := by
  rw [hquiet action hwork] at hact
  simp at hact

namespace World

/-- Nothing waits anywhere in a world. -/
def Still (w : World) : Prop :=
  (∀ l ∈ w.network.listeners, l.backlog = []) ∧ ∀ n ∈ w.nodes, n.machine.Still w.network

instance (w : World) : Decidable w.Still := inferInstanceAs (Decidable (_ ∧ _))

variable {w : World}

theorem Still.machine (h : w.Still) {node : Nat} {n : Node} (hn : w.node? node = some n) :
    n.machine.Still w.network := h.2 n (List.mem_of_getElem? hn)

/-- A handler finds nothing to read and nothing to write. -/
theorem Still.selecting (h : w.Still) {node id : Nat} {machine : Machine} {a : Attached}
    (hselecting : w.selecting? node id = some (machine, a)) :
    (∀ most, w.network.read a.socket most = (.nothing, w.network)) ∧
      machine.nextPayload id = .empty := by
  obtain ⟨n, hub, hn, rfl, hhub, ha⟩ := selecting?_eq_some hselecting
  have ha' := (Hub.selecting?_eq_some_iff.1 ha).1
  obtain ⟨-, hsocket, hsome, hempty⟩ :=
    (h.machine hn).2.1 hub hhub a (List.mem_of_find?_eq_some ha')
  obtain ⟨s, hs⟩ := Option.isSome_iff_exists.1 hsome
  obtain ⟨harrived, hending⟩ := hsocket s hs
  rw [Hub.id_of_attached? ha'] at hempty
  exact ⟨fun most => by rw [Network.read_of_empty hs harrived, hending], hempty⟩

/-- A slot that waits for nothing is connected. -/
theorem Still.phase (h : w.Still) {node slot : Nat} {machine : Machine} {r : Client.Round}
    {t : Pool.Task Bytes} (hround : w.round? node = some (machine, r))
    (ht : r.pool.task? slot = some t) : t.phase = .connected := by
  obtain ⟨n, hn, rfl, hr⟩ := round?_eq_some hround
  exact (h.machine hn).2.2 r hr t (List.mem_of_find?_eq_some ht)

/-- Whatever a connector does where nothing waits is no work. -/
theorem Still.not_isWork (h : w.Still) {w' : World} {action : Action}
    (hact : w.act action = some w') : ¬action.IsWork := by
  intro hwork
  cases action with
  | pass ms => exact hwork
  | expire node id => exact hwork
  | giveUp node slot => exact hwork
  | accept node =>
      obtain ⟨n, hn, hact⟩ := Option.bind_eq_some_iff.1 hact
      split at hact
      · obtain ⟨round, -, hact⟩ := Option.bind_eq_some_iff.1 hact
        obtain ⟨⟨socket, network⟩, haccept, -⟩ := Option.bind_eq_some_iff.1 hact
        obtain ⟨rest, hbacklog, -⟩ := Network.accept_eq_some_iff.1 haccept
        rw [Network.backlog] at hbacklog
        cases hl : w.network.listener? round.listener with
        | none => simp [hl] at hbacklog
        | some l => simp [hl, h.1 l (List.mem_of_getElem? hl)] at hbacklog
      · simp at hact
  | read node id most =>
      obtain ⟨⟨machine, a⟩, hselecting, hact⟩ := Option.bind_eq_some_iff.1 hact
      simp [(h.selecting hselecting).1] at hact
  | dispatch node id =>
      obtain ⟨n, hn, hact⟩ := Option.bind_eq_some_iff.1 hact
      simp [(h.machine hn).dispatch] at hact
  | write node id =>
      obtain ⟨⟨machine, a⟩, hselecting, hact⟩ := Option.bind_eq_some_iff.1 hact
      simp [(h.selecting hselecting).2] at hact
  | deliver node =>
      obtain ⟨n, hn, hact⟩ := Option.bind_eq_some_iff.1 hact
      simp [(h.machine hn).deliver] at hact
  | drain node earlier =>
      obtain ⟨n, hn, hact⟩ := Option.bind_eq_some_iff.1 hact
      simp [(h.machine hn).deliver] at hact
  | dial node slot =>
      obtain ⟨⟨machine, r⟩, hround, hact⟩ := Option.bind_eq_some_iff.1 hact
      obtain ⟨r', hdial, -⟩ := Option.bind_eq_some_iff.1 hact
      obtain ⟨t, ht, hdial⟩ := Option.bind_eq_some_iff.1 hdial
      simp [h.phase hround ht] at hdial
  | settle node slot =>
      obtain ⟨⟨machine, r⟩, hround, hact⟩ := Option.bind_eq_some_iff.1 hact
      obtain ⟨result, hsettle, -⟩ := Option.bind_eq_some_iff.1 hact
      obtain ⟨t, ht, hsettle⟩ := Option.bind_eq_some_iff.1 hsettle
      simp [h.phase hround ht] at hsettle
  | evict node slot =>
      obtain ⟨⟨machine, r⟩, hround, hact⟩ := Option.bind_eq_some_iff.1 hact
      obtain ⟨result, hevict, -⟩ := Option.bind_eq_some_iff.1 hact
      obtain ⟨t, ht, hevict⟩ := Option.bind_eq_some_iff.1 hevict
      simp [h.phase hround ht] at hevict

/-- **No work is possible where nothing waits.** -/
theorem Still.quiet (h : w.Still) : w.Quiet := by
  intro action hwork
  cases hact : w.act action with
  | none => rfl
  | some w' => exact (h.not_isWork hact hwork).elim

end World

/-! ### The actions that are tried -/

namespace Network

variable {n : Network} {socket most : Nat}

/-- Something can be read at a socket, be it that its stream has ended. -/
def Readable (n : Network) (socket most : Nat) : Prop :=
  ∀ n', n.read socket most ≠ (.bytes [], n') ∧ n.read socket most ≠ (.nothing, n')

/-- Where something can be read, so much can be read as is tried first. -/
theorem Readable.chunk (h : n.Readable socket most) : n.Readable socket World.chunkSize := by
  intro n'
  cases hsocket : n.socket? socket with
  | none => simp [read, hsocket]
  | some s =>
      by_cases harrived : s.arrived = []
      · have h := h n'
        rw [read_of_empty hsocket harrived] at h ⊢
        exact h
      · rw [read_of_arrived hsocket harrived]
        simp [harrived, World.chunkSize]

end Network

namespace Machine

variable {m : Machine} {hub : Hub} {a : Attached} {id : Nat}

/-- A handler can react at any time. -/
theorem isSome_react (hhub : m.hub? = some hub) (ha : hub.attached? id = some a) (now : Nat)
    (stimulus : Stimulus) : (m.react id now stimulus).isSome = true := by
  have hreact : ∃ reaction hub', hub.react id now stimulus = some (reaction, hub') :=
    ⟨_, _, by rw [Hub.react, ha, Option.map_some]⟩
  obtain ⟨reaction, hub', hreact⟩ := hreact
  cases m with
  | server s =>
      obtain ⟨round, hround, rfl⟩ := Option.map_eq_some_iff.1 hhub
      simp only [react, Server.react, hround, hreact, Option.bind_eq_bind, Option.bind_some]
      split <;> rfl
  | client c =>
      obtain ⟨r, hr, rfl⟩ := Option.map_eq_some_iff.1 hhub
      simp only [react, Client.Round.react, hr, hreact, Option.bind_eq_bind, Option.bind_some]
      split <;> rfl
  | pool r =>
      obtain rfl := Option.some.inj hhub
      simp only [react, Client.Round.react, hreact, Option.bind_eq_bind, Option.bind_some]
      split <;> rfl

theorem hub?_takePayload (m : Machine) (id : Nat) : (m.takePayload id).hub? = m.hub? := by
  cases m <;> rfl

/-- Whoever hands a message over has a connection. -/
theorem attached?_of_dispatch {m' : Machine} (hdispatch : m.dispatch id = some m') :
    ∃ hub a, m.hub? = some hub ∧ hub.attached? id = some a := by
  have hattached : ∀ {hub hub' : Hub}, hub.dispatch id = some hub' →
      ∃ a, hub.attached? id = some a := fun hdispatch => by
    obtain ⟨a, _, _, ha, -⟩ := Hub.dispatch_eq_some_iff.1 hdispatch
    exact ⟨a, ha⟩
  cases m with
  | server s =>
      obtain ⟨s', hs, -⟩ := Option.map_eq_some_iff.1 hdispatch
      obtain ⟨round, hround, hs⟩ := Option.bind_eq_some_iff.1 hs
      obtain ⟨hub', hhub, -⟩ := Option.bind_eq_some_iff.1 hs
      obtain ⟨a, ha⟩ := hattached hhub
      exact ⟨round.hub, a, by rw [hub?, hround, Option.map_some], ha⟩
  | client c =>
      obtain ⟨r, hr, hdispatch⟩ := Option.bind_eq_some_iff.1 hdispatch
      obtain ⟨hub', hhub, -⟩ := Option.bind_eq_some_iff.1 hdispatch
      obtain ⟨a, ha⟩ := hattached hhub
      exact ⟨r.hub, a, by rw [hub?, hr, Option.map_some], ha⟩
  | pool r =>
      obtain ⟨hub', hhub, -⟩ := Option.bind_eq_some_iff.1 hdispatch
      obtain ⟨a, ha⟩ := hattached hhub
      exact ⟨r.hub, a, rfl, ha⟩

end Machine

namespace Client.Round

variable {r : Client.Round} {slot now : Nat}

/-- Whether a slot can begin to dial is not a matter of time. -/
theorem isSome_dial (h : (r.dial slot now).isSome = true) (later : Nat) :
    (r.dial slot later).isSome = true := by
  rw [dial] at h ⊢
  cases htask : r.pool.task? slot with
  | none => simp [htask] at h
  | some task =>
      rw [htask] at h
      simp only [Option.bind_eq_bind, Option.bind_some] at h ⊢
      split at h
      · rfl
      · exact h
      · simp at h

/-- Whether a dial comes to something is not a matter of time. -/
theorem isSome_settle {n : Network} (h : (r.settle slot now n).isSome = true) (later : Nat) :
    (r.settle slot later n).isSome = true := by
  rw [settle] at h ⊢
  cases htask : r.pool.task? slot with
  | none => simp [htask] at h
  | some task =>
      rw [htask] at h
      simp only [Option.bind_eq_bind, Option.bind_some] at h ⊢
      split at h
      · split at h
        · simp at h
        · rfl
        · split <;> rfl
      · simp at h

end Client.Round

namespace World

variable {w u : World} {node id slot : Nat} {n : Node} {action : Action}

theorem mem_actions (hn : w.node? node = some n) (h : action ∈ nodeActions node n) :
    action ∈ w.actions :=
  List.mem_flatten.2 ⟨nodeActions node n,
    List.mem_map.2 ⟨(n, node), List.mem_zipIdx_iff_getElem?.2 hn, rfl⟩, h⟩

theorem mem_nodeActions_of_attached? {hub : Hub} {a : Attached} (hhub : n.machine.hub? = some hub)
    (ha : hub.attached? id = some a)
    (h : action ∈ [.dispatch node id, .read node id chunkSize, .write node id, .expire node id]) :
    action ∈ nodeActions node n := by
  obtain rfl := Hub.id_of_attached? ha
  simp only [nodeActions, hhub, Option.map_some, Option.getD_some, List.mem_append,
    List.mem_flatMap]
  exact .inl (.inl (.inl (.inr ⟨a, List.mem_of_find?_eq_some ha, h⟩)))

theorem mem_nodeActions_of_task? {r : Client.Round} {task : Pool.Task Bytes}
    (hr : n.machine.round? = some r) (ht : r.pool.task? slot = some task)
    (h : action ∈ [.evict node slot, .settle node slot, .giveUp node slot, .dial node slot]) :
    action ∈ nodeActions node n := by
  obtain rfl : task.id = slot := by simpa using List.find?_some ht
  simp only [nodeActions, hr, Option.map_some, Option.getD_some, List.mem_append, List.mem_flatMap]
  exact .inr ⟨task, List.mem_of_find?_eq_some ht, h⟩

/-- What a handler that looks at everything might do is tried. -/
theorem mem_actions_of_selecting? {machine : Machine} {a : Attached}
    (hs : w.selecting? node id = some (machine, a))
    (h : action ∈ [.dispatch node id, .read node id chunkSize, .write node id, .expire node id]) :
    action ∈ w.actions := by
  obtain ⟨n, hub, hn, rfl, hhub, ha⟩ := selecting?_eq_some hs
  exact mem_actions hn (mem_nodeActions_of_attached? hhub (Hub.selecting?_eq_some_iff.1 ha).1 h)

/-- What a slot might do is tried. -/
theorem mem_actions_of_task? {machine : Machine} {r : Client.Round} {task : Pool.Task Bytes}
    (hr : w.round? node = some (machine, r)) (ht : r.pool.task? slot = some task)
    (h : action ∈ [.evict node slot, .settle node slot, .giveUp node slot, .dial node slot]) :
    action ∈ w.actions := by
  obtain ⟨n, hn, rfl, hr⟩ := round?_eq_some hr
  exact mem_actions hn (mem_nodeActions_of_task? hr ht h)

/-- A handler that looks at everything can react. -/
theorem isSome_react {machine taken : Machine} {a : Attached}
    (hselecting : w.selecting? node id = some (machine, a))
    (htaken : taken.hub? = machine.hub?) (network : Network) (stimulus : Stimulus) :
    (w.react node id a.socket taken network stimulus).isSome = true := by
  obtain ⟨n, hub, -, -, hhub, ha⟩ := selecting?_eq_some hselecting
  obtain ⟨⟨reaction, notices, machine'⟩, hreact⟩ := Option.isSome_iff_exists.1
    (Machine.isSome_react (htaken.trans hhub) (Hub.selecting?_eq_some_iff.1 ha).1 w.now stimulus)
  simp [react, hreact]

/-- A handler can read unless nothing has come. -/
theorem isSome_act_read {machine : Machine} {a : Attached}
    (hselecting : w.selecting? node id = some (machine, a)) {most : Nat}
    (h : w.network.Readable a.socket most) : (w.act (.read node id most)).isSome = true := by
  rw [act, hselecting]
  simp only [Option.bind_eq_bind, Option.bind_some]
  split
  · exact isSome_react hselecting rfl ..
  · exact isSome_react hselecting rfl ..
  · exact isSome_react hselecting rfl ..
  · next hbytes hended hfailed =>
    generalize hread : w.network.read a.socket most = result at *
    obtain ⟨reading, network⟩ := result
    cases reading with
    | bytes chunk =>
        cases chunk with
        | nil => exact absurd hread (h network).1
        | cons byte chunk => exact absurd rfl (hbytes byte chunk network)
    | nothing => exact absurd hread (h network).2
    | ended => exact absurd rfl (hended network)
    | failed error => exact absurd rfl (hfailed error network)

/-- Only what has come can be read. -/
theorem readable_of_act {machine : Machine} {a : Attached} {most : Nat} {w' : World}
    (hselecting : w.selecting? node id = some (machine, a))
    (hact : w.act (.read node id most) = some w') : w.network.Readable a.socket most := by
  rw [act, hselecting] at hact
  refine fun network => ⟨fun hread => ?_, fun hread => ?_⟩
  · simp [hread] at hact
  · simp [hread] at hact

/-- **Whether work is possible is not a matter of time.** -/
theorem isSome_act_of_same (hnodes : u.nodes = w.nodes) (hnetwork : u.network = w.network)
    (hwork : action.IsWork) {u' : World} (hact : u.act action = some u') :
    (w.act action).isSome = true := by
  -- connectors and the network say what is possible; the time only goes into what comes of it
  have hnode : ∀ node, u.node? node = w.node? node := fun node => by rw [node?, hnodes, node?]
  have hselecting : ∀ node id, u.selecting? node id = w.selecting? node id := fun node id => by
    rw [selecting?, hnode, selecting?]
  have hround : ∀ node, u.round? node = w.round? node := fun node => by rw [round?, hnode, round?]
  cases action with
  | pass ms => exact hwork.elim
  | expire node id => exact hwork.elim
  | giveUp node slot => exact hwork.elim
  | accept node =>
      obtain ⟨n, hn, hact⟩ := Option.bind_eq_some_iff.1 hact
      rw [act, ← hnode, hn]
      simp only [Option.bind_eq_bind, Option.bind_some]
      split at hact
      · obtain ⟨round, hround, hact⟩ := Option.bind_eq_some_iff.1 hact
        obtain ⟨⟨socket, network⟩, haccept, -⟩ := Option.bind_eq_some_iff.1 hact
        simp [hround, ← hnetwork, haccept]
      · simp at hact
  | read node id most =>
      obtain ⟨⟨machine, a⟩, hs, -⟩ := Option.bind_eq_some_iff.1 hact
      have hreadable := readable_of_act hs hact
      rw [hnetwork] at hreadable
      exact isSome_act_read ((hselecting node id).symm.trans hs) hreadable
  | dispatch node id =>
      obtain ⟨n, hn, hact⟩ := Option.bind_eq_some_iff.1 hact
      obtain ⟨machine, hdispatch, -⟩ := Option.bind_eq_some_iff.1 hact
      simp [act, ← hnode, hn, hdispatch]
  | write node id =>
      obtain ⟨⟨machine, a⟩, hs, hact⟩ := Option.bind_eq_some_iff.1 hact
      rw [hselecting] at hs
      simp only [act, hs, Option.bind_eq_bind, Option.bind_some]
      dsimp only at hact
      split at hact
      · exact isSome_react hs (Machine.hub?_takePayload ..) ..
      · exact isSome_react hs rfl ..
      · simp at hact
  | deliver node =>
      obtain ⟨n, hn, hact⟩ := Option.bind_eq_some_iff.1 hact
      obtain ⟨delivered, hdeliver, -⟩ := Option.bind_eq_some_iff.1 hact
      simp [act, deliver, ← hnode, hn, hdeliver]
  | drain node earlier =>
      obtain ⟨n, hn, hact⟩ := Option.bind_eq_some_iff.1 hact
      obtain ⟨delivered, hdeliver, -⟩ := Option.bind_eq_some_iff.1 hact
      simp [act, deliver, ← hnode, hn, hdeliver]
  | dial node slot =>
      obtain ⟨⟨machine, r⟩, hr, hact⟩ := Option.bind_eq_some_iff.1 hact
      obtain ⟨r', hdial, -⟩ := Option.bind_eq_some_iff.1 hact
      obtain ⟨r'', hdial'⟩ := Option.isSome_iff_exists.1
        (Client.Round.isSome_dial (Option.isSome_of_eq_some hdial) w.now)
      simp [act, ← hround, hr, hdial']
  | settle node slot =>
      obtain ⟨⟨machine, r⟩, hr, hact⟩ := Option.bind_eq_some_iff.1 hact
      obtain ⟨result, hsettle, -⟩ := Option.bind_eq_some_iff.1 hact
      rw [hnetwork] at hsettle
      obtain ⟨result', hsettle'⟩ := Option.isSome_iff_exists.1
        (Client.Round.isSome_settle (Option.isSome_of_eq_some hsettle) w.now)
      simp [act, ← hround, hr, hsettle']
  | evict node slot =>
      obtain ⟨⟨machine, r⟩, hr, hact⟩ := Option.bind_eq_some_iff.1 hact
      obtain ⟨result, hevict, -⟩ := Option.bind_eq_some_iff.1 hact
      simp [act, ← hround, hr, hevict]

/-- **Work that is possible is tried**, or reading is, where it is tried to read another number of
bytes. -/
theorem mem_actions_of_act {w' : World} (hwork : action.IsWork) (hact : w.act action = some w') :
    action ∈ w.actions ∨ ∃ node id most, action = .read node id most ∧
      .read node id chunkSize ∈ w.actions := by
  cases action with
  | pass ms => exact hwork.elim
  | expire node id => exact hwork.elim
  | giveUp node slot => exact hwork.elim
  | accept node =>
      obtain ⟨n, hn, -⟩ := Option.bind_eq_some_iff.1 hact
      exact .inl (mem_actions hn (by simp [nodeActions]))
  | read node id most =>
      obtain ⟨⟨machine, a⟩, hs, -⟩ := Option.bind_eq_some_iff.1 hact
      exact .inr ⟨node, id, most, rfl, mem_actions_of_selecting? hs (by simp)⟩
  | dispatch node id =>
      obtain ⟨n, hn, hact⟩ := Option.bind_eq_some_iff.1 hact
      obtain ⟨machine, hdispatch, -⟩ := Option.bind_eq_some_iff.1 hact
      obtain ⟨hub, a, hhub, ha⟩ := Machine.attached?_of_dispatch hdispatch
      exact .inl (mem_actions hn (mem_nodeActions_of_attached? hhub ha (by simp)))
  | write node id =>
      obtain ⟨⟨machine, a⟩, hs, -⟩ := Option.bind_eq_some_iff.1 hact
      exact .inl (mem_actions_of_selecting? hs (by simp))
  | deliver node =>
      obtain ⟨n, hn, -⟩ := Option.bind_eq_some_iff.1 hact
      exact .inl (mem_actions hn (by simp [nodeActions]))
  | drain node earlier =>
      obtain ⟨n, hn, hact⟩ := Option.bind_eq_some_iff.1 hact
      obtain ⟨delivered, hdeliver, -⟩ := Option.bind_eq_some_iff.1 hact
      obtain ⟨queue, hqueue, -⟩ := Machine.queue?_of_deliver hdeliver
      have hlt : earlier < n.machine.retired.length := (List.getElem?_eq_some_iff.1 hqueue).1
      exact .inl (mem_actions hn (by simp [nodeActions, hlt]))
  | dial node slot =>
      obtain ⟨⟨machine, r⟩, hr, hact⟩ := Option.bind_eq_some_iff.1 hact
      obtain ⟨r', hdial, -⟩ := Option.bind_eq_some_iff.1 hact
      obtain ⟨task, ht, -⟩ := Option.bind_eq_some_iff.1 hdial
      exact .inl (mem_actions_of_task? hr ht (by simp))
  | settle node slot =>
      obtain ⟨⟨machine, r⟩, hr, hact⟩ := Option.bind_eq_some_iff.1 hact
      obtain ⟨result, hsettle, -⟩ := Option.bind_eq_some_iff.1 hact
      obtain ⟨task, ht, -⟩ := Option.bind_eq_some_iff.1 hsettle
      exact .inl (mem_actions_of_task? hr ht (by simp))
  | evict node slot =>
      obtain ⟨⟨machine, r⟩, hr, hact⟩ := Option.bind_eq_some_iff.1 hact
      obtain ⟨result, hevict, -⟩ := Option.bind_eq_some_iff.1 hact
      obtain ⟨task, ht, -⟩ := Option.bind_eq_some_iff.1 hevict
      exact .inl (mem_actions_of_task? hr ht (by simp))

/-- **No work is possible at any time where none is possible of the actions that are tried.** -/
theorem quiet_of_actions (hnodes : u.nodes = w.nodes) (hnetwork : u.network = w.network)
    (h : ∀ action ∈ w.actions, action.IsWork → w.act action = none) : u.Quiet := by
  intro action hwork
  cases hact : u.act action with
  | none => rfl
  | some u' =>
      obtain ⟨w', hnow⟩ := Option.isSome_iff_exists.1
        (isSome_act_of_same hnodes hnetwork hwork hact)
      obtain hmem | ⟨node, id, most, rfl, hmem⟩ := mem_actions_of_act hwork hnow
      · simp [h action hmem hwork] at hnow
      · -- where anything can be read, reading is possible with the number of bytes that is tried
        obtain ⟨⟨machine, a⟩, hs, -⟩ := Option.bind_eq_some_iff.1 hnow
        have hread := isSome_act_read hs (readable_of_act hs hnow).chunk
        simp [h _ hmem trivial] at hread

end World

end Framewire
