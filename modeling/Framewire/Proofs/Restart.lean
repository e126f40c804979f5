/-
**A restart begins from a clean state.**

When a connector has stopped, nothing of its rounds is left but messages that had already reached
the queue of its sink: all its connections are closed, and it counts none.  Started again it does
what a new connector with its configuration and its sink would do from then on, in the same world.
The queues of earlier rounds go on beside that, each by itself, until they are empty; and a connector
that was destroyed is not started again.

Main definitions:

* `Machine.past` — what a connector has behind it;
* `World.anew` — the world with a new connector in the place of one;
* `View`, `World.view?` — what can be seen of a connector;
* `World.Hears`, `World.Renews` — a connector with earlier rounds goes on like a new one.

Main results:

* `World.retired_of_sink_eq_none` — only a connector with a sink has earlier rounds;
* `World.resumed_anew` — a connector that has stopped is a new one with earlier rounds behind it;
* `World.Resumed.renews` — earlier rounds make no other difference than the messages that they left;
* `World.restart_is_clean` — **a restart begins from a clean state**, but for messages that were
  queued;
* `World.restart_hears_queued_message` — these do come to the sink after a restart.
-/

import Framewire.Proofs.Resumption
import Framewire.Proofs.Stillness

set_option autoImplicit false

namespace Framewire

/-! ### Looking at connectors -/

/-- What can be seen of a connector: the number of addresses that have a connection or a slot,
whether an address has one, whether the connector runs, and its endpoint. -/
structure View where
  size : Nat
  isConnected : Endpoint → Bool
  isRunning : Bool
  localAddress : Endpoint

/-- What can be seen of a connector. -/
def Machine.view (m : Machine) : View :=
  ⟨m.size, fun remote => m.isConnected remote, m.isRunning, m.localAddress⟩

@[simp] theorem Machine.view_behind (m : Machine) (p : Past) : (m.behind p).view = m.view := by
  simp [view]

/-! ### What a connector has behind it -/

namespace Machine

variable {m : Machine} {n : Network} {config : ServerConfig ⊕ ClientConfig} {st : Standing}

/-- What a connector has behind it: its enrolments, and the queues of its earlier rounds. -/
def past : Machine → Past
  | server s => ⟨s.registry.enrolments, s.retired⟩
  | client c => ⟨[], c.retired⟩
  | pool _ => ⟨[], []⟩

/-- A new connector that has a sink. -/
def supplied (config : ServerConfig ⊕ ClientConfig) (sink : Option Receiver) : Machine :=
  match config with
  | .inl config => server { Server.new config with life := { sink } }
  | .inr config => client { Client.new config with life := { sink } }

theorem past_fits (hm : m.standing? = some (config, st)) : m.past.Fits config := by
  cases m with
  | server s =>
      obtain ⟨rfl, -⟩ := Prod.mk.inj (Option.some.inj hm)
      trivial
  | client c =>
      obtain ⟨rfl, -⟩ := Prod.mk.inj (Option.some.inj hm)
      rfl
  | pool r => simp [standing?] at hm

theorem past_queues : m.past.queues = m.retired := by
  cases m <;> rfl

/-- **A connector that does not run and was not destroyed is a new one with rounds behind it.** -/
theorem eq_supplied_behind (h : m.Sound n) (hm : m.standing? = some (config, st))
    (hrunning : st.isRunning = false) (hdestroyed : st.destroyed = false) :
    m = (supplied config st.sink).behind m.past := by
  cases m with
  | server s =>
      obtain ⟨rfl, rfl⟩ := Prod.mk.inj (Option.some.inj hm)
      have hnone := Lifecycle.running_eq_none_iff.2 hrunning
      have hcurrent : s.registry.current = .empty := Server.Sound.vacant h hnone
      obtain ⟨config, ⟨sink, destroyed, running⟩, ⟨enrolments, current⟩, retired⟩ := s
      obtain rfl : running = none := hnone
      obtain rfl : destroyed = false := hdestroyed
      obtain rfl : current = .empty := hcurrent
      simp [supplied, behind, past, Server.behind, Server.new, Registry.behind, Lifecycle.modify,
        Lifecycle.standing]
      rfl
  | client c =>
      obtain ⟨rfl, rfl⟩ := Prod.mk.inj (Option.some.inj hm)
      obtain ⟨config, ⟨sink, destroyed, running⟩, retired⟩ := c
      obtain rfl : running = none := Lifecycle.running_eq_none_iff.2 hrunning
      obtain rfl : destroyed = false := hdestroyed
      simp [supplied, behind, past, Client.behind, Client.new, Lifecycle.standing]
  | pool r => simp [standing?] at hm

end Machine

namespace World

variable {v w : World} {id : Nat} {n : Node} {config : ServerConfig ⊕ ClientConfig}
  {st : Standing} {p : Past} {received : List Message} {sink : Option Receiver}

/-- What can be seen of the connector of a number. -/
def view? (w : World) (id : Nat) : Option View := (w.node? id).map fun n => n.machine.view

/-- What the connector of a number has behind it. -/
def past (w : World) (id : Nat) : Past :=
  ((w.node? id).map fun n => n.machine.past).getD ⟨[], []⟩

/-- The world with a new connector in the place of one.  It is given a sink, if there is one. -/
def anew (w : World) (id : Nat) (config : ServerConfig ⊕ ClientConfig) (sink : Option Receiver) :
    World :=
  let v := { w with nodes := w.nodes.set id { machine := .ofConfig config } }
  match sink with
  | none => v
  | some receiver => (v.ask id (.setReceiver receiver)).2

theorem set_set (w : World) (id : Nat) (n n' : Node) (network network' : Network)
    (notices notices' : List Notice) :
    (w.set id n network notices).set id n' network' notices' = w.set id n' network' notices' :=
  congrArg (fun nodes => (⟨network', w.now, nodes, notices'⟩ : World)) (List.set_set ..)

theorem anew_eq (hn : w.node? id = some n) (config : ServerConfig ⊕ ClientConfig)
    (sink : Option Receiver) :
    w.anew id config sink =
      w.set id { machine := .supplied config sink } w.network w.notices := by
  cases sink with
  | none => cases config <;> rfl
  | some receiver =>
      have hv : (w.set id { machine := .ofConfig config } w.network w.notices).node? id =
          some { machine := .ofConfig config } := by rw [node?_set hn, if_pos rfl]
      change (ask (w.set id { machine := .ofConfig config } w.network w.notices) id _).2 = _
      refine .trans ?_ (set_set w id { machine := .ofConfig config } _ w.network w.network w.notices
        w.notices)
      rw [ask, hv]
      cases config with
      | inl config => exact note_setMachine hv _ w.network []
      | inr config => exact note_setMachine hv _ w.network []

/-- The connector that is new has the configuration and the sink. -/
theorem standing?_anew (hn : w.node? id = some n) (config : ServerConfig ⊕ ClientConfig)
    (sink : Option Receiver) :
    (w.anew id config sink).standing? id = some (config, { sink }) := by
  rw [anew_eq hn, standing?, node?_set hn, if_pos rfl]
  cases config <;> rfl

/-- Behind the enrolments and the queues of the old connector, the new one is the old one. -/
theorem anew_behind (hn : w.node? id = some n)
    (hm : n.machine = (Machine.supplied config sink).behind p) :
    (w.anew id config sink).behind id p n.received = w := by
  have hv : (w.set id { machine := .supplied config sink } w.network w.notices).node? id =
      some { machine := .supplied config sink } := by rw [node?_set hn, if_pos rfl]
  have hnode : Node.behind { machine := .supplied config sink } p n.received = n := by
    rw [Node.behind, ← hm]
  have hnodes := modify_eq_set hv fun n' => n'.behind p n.received
  rw [hnode] at hnodes
  rw [anew_eq hn, behind, hnodes]
  exact (set_set w id _ n w.network w.network w.notices w.notices).trans (set_self hn)

/-- **A connector that has stopped is a new one with earlier rounds behind it.** -/
theorem resumed_anew (h : w.Sound) (hn : w.node? id = some n)
    (hm : n.machine.standing? = some (config, st)) (hrunning : st.isRunning = false)
    (hdestroyed : st.destroyed = false) (hretired : st.sink = none → n.machine.retired = []) :
    Resumed id config st.sink (w.past id) n.received (w.anew id config st.sink) w := by
  have hpast : w.past id = n.machine.past := by rw [past, hn]; rfl
  rw [hpast]
  have hmachine := Machine.eq_supplied_behind (h.machine id n hn) hm hrunning hdestroyed
  refine ⟨?_, ⟨_, standing?_anew hn config st.sink, fun _ h => h⟩, Machine.past_fits hm,
    fun hnone => Machine.past_queues.trans (hretired hnone)⟩
  rw [Follows, anew_behind hn hmachine]

/-- The sink of a new connector has taken nothing. -/
theorem messages_anew (hn : w.node? id = some n) (config : ServerConfig ⊕ ClientConfig)
    (sink : Option Receiver) : (w.anew id config sink).messages id = [] := by
  rw [anew_eq hn, messages, node?_set hn, if_pos rfl]
  rfl

/-- What is seen of the two connectors, and everything else, is the same. -/
theorem Resumed.observed (h : Resumed id config sink p received v w) :
    w.network = v.network ∧ w.now = v.now ∧ (∀ node ≠ id, w.node? node = v.node? node) ∧
      w.view? id = v.view? id ∧
        (∀ node request, (w.ask node request).1 = (v.ask node request).1) ∧
          w.messages id = received.reverse := by
  have hw : w.unlogged = (v.behind id p received).unlogged := h.follows
  have hnetwork : w.unlogged.network = v.network := by rw [hw]; rfl
  have hnow : w.unlogged.now = v.now := by rw [hw]; rfl
  have hnode : ∀ node, w.node? node = (v.behind id p received).node? node := fun node => by
    change w.unlogged.node? node = _
    rw [hw]
    rfl
  have hask : ∀ node request,
      (w.ask node request).1 = ((v.behind id p received).ask node request).1 :=
    fun node request => by
      have halike : (w.unlogged.ask node request).1 = (w.ask node request).1 :=
        (ask_alike rfl request).1
      rw [← halike, hw]
      exact (ask_alike rfl request).1
  obtain ⟨st, hst, -⟩ := h.standing
  obtain ⟨n, hn, -⟩ := standing?_eq_some_iff.1 hst
  have hself := (hnode id).trans (node?_behind_self hn p received)
  refine ⟨hnetwork, hnow, fun node hne => (hnode node).trans (node?_behind_of_ne hne), ?_,
    fun node request => (hask node request).trans ?_, ?_⟩
  · rw [view?, view?, hself, hn, Option.map_some, Option.map_some, Node.behind,
      Machine.view_behind]
  · by_cases hid : node = id
    · subst hid
      exact (ask_behind hn request).1
    · exact (ask_elsewhere hid request).1
  · rw [messages, hself]
    rfl

end World

/-! ### Connectors without a sink -/

namespace Machine

/-- A connector without a sink that does not run does nothing by itself. -/
theorem not_moves {m m' : Machine} {n n' : Network} {now : Nat}
    {config : ServerConfig ⊕ ClientConfig} {st : Standing} (hm : m.standing? = some (config, st))
    (hsink : st.sink = none) (hrunning : st.isRunning = false) : ¬m.Moves now n n' m' := by
  have hhub : m.hub? = none := by
    cases m with
    | server s =>
        obtain ⟨-, rfl⟩ := Prod.mk.inj (Option.some.inj hm)
        rw [hub?, Lifecycle.running_eq_none_iff.2 hrunning]
        rfl
    | client c =>
        obtain ⟨-, rfl⟩ := Prod.mk.inj (Option.some.inj hm)
        rw [hub?, Lifecycle.running_eq_none_iff.2 hrunning]
        rfl
    | pool r => simp [standing?] at hm
  have hround : ∀ r, m.round? ≠ some r := fun r hr => by
    simp [hub?_of_round? hr] at hhub
  intro hmoves
  cases hmoves with
  | accept hs hrunning haccept remote =>
      subst hs
      rw [hub?, hrunning] at hhub
      simp at hhub
  | react hhub' => simp [hhub] at hhub'
  | dispatch hdispatch =>
      rw [dispatch_of_attached?_eq_none (by simp [hhub])] at hdispatch
      simp at hdispatch
  | deliver hdeliver =>
      rw [deliver_of_receiver?_eq_none hm ((receiver?_eq hm).trans hsink) _] at hdeliver
      simp at hdeliver
  | dial hr => exact hround _ hr
  | settle hr => exact hround _ hr
  | giveUp hr => exact hround _ hr
  | evict hr => exact hround _ hr

end Machine

namespace World

variable {w : World} {id : Nat} {n : Node} {config : ServerConfig ⊕ ClientConfig} {st : Standing}

/-- What is asked of another connector does not change this one. -/
theorem node?_ask_of_ne {node : Nat} (hnode : node ≠ id) (request : Request) :
    (w.ask node request).2.node? id = w.node? id := by
  have hcalls := ask_calls w node request
  generalize w.ask node request = call at hcalls
  cases hcalls with
  | notes result notices => rfl
  | replaces hn machine network notices => rw [node?_set hn, if_neg (Ne.symm hnode)]

/-- A connector that is destroyed before it has a sink. -/
theorem retired_destroy (hn : w.node? id = some n)
    (hm : n.machine.standing? = some (config, st)) (hrunning : st.isRunning = false) :
    ∃ n', (w.ask id .destroy).2.node? id = some n' ∧ n'.machine.retired = n.machine.retired := by
  have hended : ∀ machine, (w.ended id ([], machine, w.network)).node? id =
      some { n with machine } := fun machine => by
    refine (congrArg (fun w => w.node? id) (note_setMachine hn machine w.network [])).trans ?_
    rw [node?_set hn, if_pos rfl]
  rw [ask, hn]
  cases hmachine : n.machine with
  | server s =>
      rw [hmachine] at hm
      obtain ⟨-, rfl⟩ := Prod.mk.inj (Option.some.inj hm)
      have hstop : s.stop w.network = ([], s, w.network) := by
        rw [Server.stop, Lifecycle.running_eq_none_iff.2 hrunning]
      dsimp only
      rw [hmachine, destroy, Server.destroy, hstop]
      exact ⟨_, hended (.server { s with life := s.life.destroy }), rfl⟩
  | client c =>
      rw [hmachine] at hm
      obtain ⟨-, rfl⟩ := Prod.mk.inj (Option.some.inj hm)
      have hstop : c.stop w.network = ([], c, w.network) := by
        rw [Client.stop, Lifecycle.running_eq_none_iff.2 hrunning]
      dsimp only
      rw [hmachine, destroy, Client.destroy, hstop]
      exact ⟨_, hended (.client { c with life := c.life.destroy }), rfl⟩
  | pool r => simp [hmachine, Machine.standing?] at hm

/-- A connector without a sink that does not run goes on without a round. -/
theorem retired_happen (hn : w.node? id = some n)
    (hm : n.machine.standing? = some (config, st)) (hsink : st.sink = none)
    (hrunning : st.isRunning = false) {happening : Happening}
    (hrequest : ∀ receiver, happening ≠ .ask id (.setReceiver receiver)) :
    ∃ n', (w.happen happening).node? id = some n' ∧
      n'.machine.retired = n.machine.retired := by
  have hst : w.standing? id = some (config, st) := standing?_eq_some_iff.2 ⟨n, hn, hm⟩
  have herror : ∀ request fault, (w.ask id request).1 = .error fault →
      ∃ n', (w.ask id request).2.node? id = some n' ∧
        n'.machine.retired = n.machine.retired := fun request fault hfault => by
    obtain ⟨notices, hnoted⟩ := ask_of_error hfault
    rw [hnoted]
    exact ⟨n, hn, rfl⟩
  cases happening with
  | ask node request =>
      by_cases hnode : node = id
      · subst hnode
        cases request with
        | setReceiver receiver => exact absurd rfl (hrequest receiver)
        | start =>
            refine herror .start Misuse.startWithoutSink.fault ?_
            rw [(ask_spec hst).1, Standing.answer, hsink]
            rfl
        | stop =>
            rw [happen, ask_stop_of_not_running hst hrunning]
            exact ⟨n, hn, rfl⟩
        | destroy => exact retired_destroy hn hm hrunning
        | send message =>
            refine herror (.send message) Misuse.sendWithoutSink.fault ?_
            rw [(ask_spec hst).1, Standing.answer, hsink]
            rfl
      · exact ⟨n, (node?_ask_of_ne hnode request).trans hn, rfl⟩
  | act action =>
      rw [happen]
      cases hact : w.act action with
      | none => exact ⟨n, hn, rfl⟩
      | some w' =>
          obtain ⟨ms, -, rfl⟩ | ⟨node, -, n₀, network, machine, received, notices, hn₀, hmoves, -,
            rfl⟩ := act_spec hact
          · exact ⟨n, hn, rfl⟩
          · have hnode : id ≠ node := by
              rintro rfl
              obtain rfl := Option.some.inj (hn.symm.trans hn₀)
              exact Machine.not_moves hm hsink hrunning hmoves
            refine ⟨n, ?_, rfl⟩
            rw [Option.getD_some, node?_set hn₀, if_neg hnode, hn]
  | use use => exact ⟨n, hn, rfl⟩

/-- A connector without a sink had none before, and does not run. -/
theorem sink_eq_none_of_record (h : w.standing? id = some (config, st))
    (hrunning : st.sink = none → st.isRunning = false) (happening : Happening)
    (hsink : (st.after (w.record id happening)).sink = none) :
    st.sink = none ∧ (st.after (w.record id happening)).isRunning = false := by
  cases happening with
  | act action => exact ⟨hsink, hrunning hsink⟩
  | use use => exact ⟨hsink, hrunning hsink⟩
  | ask node request =>
      rw [record] at hsink ⊢
      split at hsink
      · next hnode =>
        rw [if_pos hnode, (ask_spec h).1]
        rw [(ask_spec h).1] at hsink
        cases request with
        | setReceiver receiver => simp [Standing.after, Standing.next] at hsink
        | start =>
            have hnone : st.sink = none := by
              generalize st.answer (resources w.network config) .start = result at hsink
              cases result <;> exact hsink
            simp [Standing.after, Standing.answer, hnone, Standing.next, hrunning hnone]
        | stop => exact ⟨hsink, rfl⟩
        | destroy => exact ⟨hsink, rfl⟩
        | send message => exact ⟨hsink, hrunning hsink⟩
      · next hnode =>
        rw [if_neg hnode]
        exact ⟨hsink, hrunning hsink⟩

/-- **Only a connector with a sink has earlier rounds.** -/
theorem retired_of_sink_eq_none (hn : w.node? id = some n)
    (hm : n.machine.standing? = some (config, st))
    (hretired : st.sink = none → st.isRunning = false ∧ n.machine.retired = [])
    (happenings : List Happening) :
    ∃ n' st', (w.after happenings).node? id = some n' ∧
      n'.machine.standing? = some (config, st') ∧
        (st'.sink = none → st'.isRunning = false ∧ n'.machine.retired = []) := by
  induction happenings generalizing w n st with
  | nil => exact ⟨n, st, hn, hm, hretired⟩
  | cons happening happenings ih =>
      have hst := standing?_happen (standing?_eq_some_iff.2 ⟨n, hn, hm⟩) happening
      obtain ⟨n', hn', hm'⟩ := standing?_eq_some_iff.1 hst
      refine ih hn' hm' fun hsink' => ?_
      obtain ⟨hsink, hrunning'⟩ := sink_eq_none_of_record
        (standing?_eq_some_iff.2 ⟨n, hn, hm⟩) (fun hsink => (hretired hsink).1) happening hsink'
      obtain ⟨hrunning, hnil⟩ := hretired hsink
      refine ⟨hrunning', ?_⟩
      -- the sink that was not set was not asked for either
      have hrequest : ∀ receiver, happening ≠ .ask id (.setReceiver receiver) := by
        rintro receiver rfl
        simp [record, Standing.after, Standing.next] at hsink'
      obtain ⟨n₁, hn₁, hsame⟩ := retired_happen hn hm hsink hrunning hrequest
      obtain rfl := Option.some.inj (hn'.symm.trans hn₁)
      exact hsame.trans hnil

theorem retired_inhabited {host : Host} {configs : List (ServerConfig ⊕ ClientConfig)}
    (hn : (inhabited host configs).node? id = some n) : n.machine.retired = [] := by
  obtain ⟨config, -, rfl⟩ := List.mem_map.1 (List.mem_of_getElem? hn)
  cases config <;> rfl

/-! ### Restarts -/

/-- What the sinks of the two connectors hear in a run, `v` being the world with the new one.

* The sink takes what the sink of the new one takes, in the same order, and in between what the queues
  of earlier rounds still hold.
* Of each of these queues it takes a first part of the messages, in order, and nothing as long as that
  queue does not move. -/
structure Hears (id : Nat) (sink : Option Receiver) (p : Past) (v w : World)
    (later : List Happening) (heard : Heard) : Prop where
  messages : (w.after later).messages id = w.messages id ++ heard.messages
  anew : heard.of none = (v.after (w.mirrored id p.base p.queues.length later)).messages id
  earlier : ∀ k, heard.of (some k) <+: p.supply sink k
  unmoved : ∀ k, .act (.drain id k) ∉ later → heard.of (some k) = []

/-- **A connector with earlier rounds goes on like a new one**, `v` being the world with the new one.

* Whatever happens comes to the same network, the same other connectors, the same answers and the same
  sight of the connector; the new one knows nothing of payloads or bytes of earlier rounds.
* The sink hears what that of the new one hears, and what the queues of earlier rounds still hold.  At
  any time all of such a queue comes to the sink, if only this queue moves.
* What happens to the new connector is the same under its own numbers, except that the sink may ask
  for something when it gets a message of an earlier round.  If it sends nothing back, or if nothing
  is left, it is exactly the same.
* If nothing is left, the sink takes exactly what that of the new one takes.
* The other way round, whatever can happen to the new connector can happen to this one, and then its
  sink takes exactly the same. -/
structure Renews (id : Nat) (sink : Option Receiver) (p : Past) (v w : World) : Prop where
  seen : ∀ later,
    let w' := w.after later
    let v' := v.after (w.mirrored id p.base p.queues.length later)
    w'.network = v'.network ∧ w'.now = v'.now ∧ (∀ node ≠ id, w'.node? node = v'.node? node) ∧
      w'.view? id = v'.view? id ∧ ∀ node request, (w'.ask node request).1 = (v'.ask node request).1
  hears : ∀ later, ∃ heard, Hears id sink p v w later heard
  exhausts : ∀ later k, ∃ times heard,
    Hears id sink p v w (later ++ List.replicate times (.act (.drain id k))) heard ∧
      heard.of (some k) = p.supply sink k
  mirrored : ((∀ receiver, sink = some receiver → receiver.echoes = false) ∨
      ∀ k, p.leftover k = []) → ∀ later,
    w.mirrored id p.base p.queues.length later =
      later.filterMap (Happening.lower? id p.base p.queues.length)
  empty : (∀ k, p.leftover k = []) → ∀ later,
    (w.after later).messages id = w.messages id ++
      (v.after (later.filterMap (Happening.lower? id p.base p.queues.length))).messages id
  raised : ∀ others,
    let later := others.map (Happening.raise id p.base p.queues.length)
    w.mirrored id p.base p.queues.length later = others ∧
      (w.after later).messages id = w.messages id ++ (v.after others).messages id

namespace Resumed

variable {p p' : Past} {v v' w w' : World} {received : List Message} {sink : Option Receiver}

theorem messages_eq (h : Resumed id config sink p received v w) :
    w.messages id = received.reverse := h.observed.2.2.2.2.2

end Resumed

namespace Beside

variable {p p' : Past} {v v' w w' : World} {received : List Message} {sink : Option Receiver}
  {later : List Happening} {heard : Heard}

/-- The sink has taken what it had taken before, and what it was given beside the new one. -/
theorem messages_eq (h : Beside id config sink p received v later v' w' p' heard) :
    w'.messages id = received.reverse ++ heard.messages := by
  rw [h.resumed.messages_eq, List.reverse_append, List.reverse_reverse]

/-- Without messages of earlier rounds, the two sinks take the same. -/
theorem messages_eq_of_none (h : Beside id config sink p received v later v' w' p' heard)
    (hnothing : v.messages id = []) (hnone : ∀ k, heard.of (some k) = []) :
    w'.messages id = received.reverse ++ v'.messages id := by
  rw [h.messages_eq, h.messages, hnothing, List.nil_append, ← heard.messages_eq_of hnone]

/-- What the two sinks hear, if nothing has come to that of the new one before. -/
theorem hears
    (h : Beside id config sink p received v later
      (v.after (w.mirrored id p.base p.queues.length later)) (w.after later) p' heard)
    (hmessages : w.messages id = received.reverse) (hnothing : v.messages id = []) :
    Hears id sink p v w later heard where
  messages := by rw [h.messages_eq, hmessages]
  anew := by rw [h.messages, hnothing, List.nil_append]
  earlier k := ⟨_, h.passed.supply k⟩
  unmoved := h.drained

end Beside

/-- A connector that goes on after earlier rounds goes on like the new one, if nothing has come to the
sink of the new one yet. -/
theorem Resumed.renews {received : List Message} {sink : Option Receiver} {p : Past} {v : World}
    (h : Resumed id config sink p received v w) (hnothing : v.messages id = []) :
    Renews id sink p v w where
  seen later := by
    obtain ⟨p', heard, hbeside⟩ := h.after later
    obtain ⟨hnetwork, hnow, hnodes, hview, hasks, -⟩ := hbeside.resumed.observed
    exact ⟨hnetwork, hnow, hnodes, hview, hasks⟩
  hears later := by
    obtain ⟨p', heard, hbeside⟩ := h.after later
    exact ⟨heard, hbeside.hears h.messages_eq hnothing⟩
  exhausts later k := by
    obtain ⟨p₁, first, hfirst⟩ := h.after later
    obtain ⟨p₂, last, hlast, hempty⟩ := hfirst.resumed.exhaust k
    rw [hfirst.passed.base_eq, hfirst.passed.length_eq, ← World.after_append, ← mirrored_append,
      ← World.after_append] at hlast
    have hbeside := hfirst.trans hlast
    refine ⟨_, first ++ last, hbeside.hears h.messages_eq hnothing, ?_⟩
    -- the queue is empty now, so the sink has taken everything that it held
    have hsupply := hbeside.passed.supply k
    rwa [Past.supply, hempty, List.filter_nil, List.append_nil] at hsupply
  mirrored hsilent := h.mirrored_eq hsilent
  empty hempty later := by
    obtain ⟨p', heard, hbeside⟩ := h.after later
    rw [h.mirrored_eq (.inr hempty)] at hbeside
    rw [hbeside.messages_eq_of_none hnothing fun k => hbeside.passed.of_eq_nil (hempty k),
      h.messages_eq]
  raised others := by
    refine ⟨mirrored_map_raise w id _ _ others, ?_⟩
    obtain ⟨p', heard, hbeside⟩ :=
      h.after (others.map (Happening.raise id p.base p.queues.length))
    rw [mirrored_map_raise] at hbeside
    rw [hbeside.messages_eq_of_none hnothing, h.messages_eq]
    intro k
    -- a queue that moves in none of these steps gives nothing, and one that there is not has nothing
    by_cases hk : k < p.queues.length
    · refine hbeside.drained k fun hmem => ?_
      obtain ⟨x, -, hx⟩ := List.mem_map.1 hmem
      exact drain_ne_raise hk x hx.symm
    · refine hbeside.passed.of_eq_nil ?_
      rw [Past.leftover, List.getElem?_eq_none (Nat.not_lt.1 hk)]
      rfl

/-- A connector without a sink has stopped without a round behind it. -/
theorem retired_of_stopped {host : Host} {configs : List (ServerConfig ⊕ ClientConfig)}
    (hconfig : configs[id]? = some config) (happenings : List Happening)
    (hn : ((inhabited host configs).after happenings).node? id = some n)
    (hm : n.machine.standing? = some (config, st)) (hsink : st.sink = none) :
    n.machine.retired = [] := by
  obtain ⟨n₀, hn₀, hinhabited⟩ := standing?_eq_some_iff.1 (standing?_inhabited hconfig)
  obtain ⟨n', st', hn', hm', hretired⟩ := retired_of_sink_eq_none hn₀ hinhabited
    (fun _ => ⟨rfl, retired_inhabited hn₀⟩) happenings
  obtain rfl := Option.some.inj (hn.symm.trans hn')
  obtain rfl : st' = st := (Prod.mk.inj (Option.some.inj (hm'.symm.trans hm))).2
  exact (hretired hsink).2

/-- **A restart begins from a clean state**, but for messages that were queued.  A connector has
stopped.

* Every connection that it ever had is closed, and so are those that a server had not taken from its
  listener; it counts no connection.
* If it was destroyed, it is not started again.
* Otherwise it goes on like a new connector with its configuration and its sink, beside what the
  queues of earlier rounds still hold for that sink. -/
theorem restart_is_clean (host : Host) (configs : List (ServerConfig ⊕ ClientConfig)) (id : Nat)
    (config : ServerConfig ⊕ ClientConfig) (hconfig : configs[id]? = some config)
    (happenings : List Happening) :
    let stopping := (inhabited host configs).after happenings
    let h := (inhabited host configs).history id happenings
    let w := (stopping.ask id .stop).2
    (∀ earlier later, happenings = earlier ++ later →
        ∀ k ∈ ((inhabited host configs).after earlier).keys id, w.network.Closed k.2) ∧
      (∀ n, stopping.node? id = some n →
        ∀ socket ∈ n.machine.waiting stopping.network, w.network.Closed socket) ∧
      (∃ view, w.view? id = some view ∧ view.isRunning = false ∧ view.size = 0 ∧
        ∀ remote, view.isConnected remote = false) ∧
      (h.destroyed = true →
        ∀ later, ∃ fault, ((w.after later).ask id .start).1 = .error fault) ∧
      (h.destroyed = false → Renews id h.sink? (w.past id) (w.anew id config h.sink?) w) := by
  intro stopping h w
  have hsound := sound_inhabited host configs
  have hstopping : stopping.Sound := (hsound.leads_after happenings).sound
  have hw : (inhabited host configs).after (happenings ++ [.ask id .stop]) = w := by
    rw [after_append]
    rfl
  have hst : w.standing? id = some (config, { h.standing with isRunning := false }) :=
    (ask_spec (standing?_history hconfig happenings)).2
  obtain ⟨n, hn, hm⟩ := standing?_eq_some_iff.1 hst
  have hwsound : w.Sound := (hstopping.leads_ask id .stop).sound
  have hrunning : n.machine.isRunning = false := Machine.isRunning_eq hm
  refine ⟨fun earlier later hearlier k hk => ?_, fun n₀ hn₀ => hstopping.closed_waiting hn₀, ?_,
    fun hdestroyed later => start_of_destroyed hst hdestroyed later, fun hdestroyed => ?_⟩
  · subst hearlier
    rw [List.append_assoc, after_append] at hw
    have hearlier := (hsound.leads_after earlier).sound
    rw [← hw] at hn ⊢
    exact hearlier.closed_of_not_running _ hn hrunning k hk
  · obtain ⟨hsize, hconnected⟩ := (hwsound.machine id n hn).size_eq_zero hrunning
    exact ⟨n.machine.view, by rw [view?, hn]; rfl, hrunning, hsize, hconnected⟩
  · have hresumed := resumed_anew hwsound hn hm rfl hdestroyed fun hsink =>
      retired_of_stopped hconfig (happenings ++ [.ask id .stop]) (hw ▸ hn) hm hsink
    exact hresumed.renews (messages_anew hn config h.sink?)

/-- A server stops while it has a connection and a message is queued for its sink.  It starts again and
takes a new connection, from which a message comes to its sink.  The message that was queued comes to
the sink, too, when its queue moves. -/
theorem restart_is_clean_of_connection :
    let config : ServerConfig ⊕ ClientConfig := .inl { port := 0 }
    let happenings : List Happening := [.ask 0 (.setReceiver {}), .ask 0 .start,
      .use (.dial (.v4 .loopback 49152)), .act (.accept 0), .use (.write 0 [0x00, 7]),
      .act (.read 0 0 8), .act (.dispatch 0 0)]
    let w := (((inhabited .connected [config]).after happenings).ask 0 .stop).2
    let later : List Happening := [.ask 0 .start, .use (.dial (.v4 .loopback 49154)),
      .act (.accept 0), .use (.write 2 [0x00, 9]), .act (.read 0 1 8), .act (.dispatch 0 1),
      .act (.deliver 0)]
    [config][0]? = some config ∧
      ((inhabited .connected [config]).history 0 happenings).destroyed = false ∧
      w.network.Closed 1 ∧
      (w.after later).view? 0 =
        ((w.anew 0 config (some {})).after (w.mirrored 0 1 1 later)).view? 0 ∧
      (∃ heard : Heard, (w.after later).messages 0 = heard.messages ∧
        heard.of none = [⟨[0x00, 9], .v4 .loopback 49155⟩] ∧ heard.of (some 0) = []) ∧
      ∃ (times : Nat) (heard : Heard),
        (w.after (later ++ List.replicate times (.act (.drain 0 0)))).messages 0 = heard.messages ∧
          heard.of (some 0) = [⟨[0x00, 7], .v4 .loopback 49153⟩] := by
  intro config happenings w later
  have hconnected : (0, 1) ∈ ((inhabited .connected [config]).after happenings).keys 0 := by
    decide +kernel
  have hsupply : (w.past 0).supply (some {}) 0 = [⟨[0x00, 7], .v4 .loopback 49153⟩] := by
    decide +kernel
  have hnothing : w.messages 0 = [] := by decide +kernel
  have hbase : (w.past 0).base = 1 := by decide +kernel
  have hcount : (w.past 0).queues.length = 1 := by decide +kernel
  have hanew : ((w.anew 0 config (some {})).after (w.mirrored 0 1 1 later)).messages 0 =
      [⟨[0x00, 9], .v4 .loopback 49155⟩] := by decide +kernel
  obtain ⟨hclosed, -, -, -, hrenews⟩ := restart_is_clean .connected [config] 0 config rfl happenings
  have hrenews : Renews 0 (some {}) (w.past 0) (w.anew 0 config (some {})) w := hrenews rfl
  obtain ⟨-, -, -, hview, -⟩ := hrenews.seen later
  obtain ⟨heard, hhears⟩ := hrenews.hears later
  obtain ⟨times, all, hall, hleft⟩ := hrenews.exhausts later 0
  have hheard := hhears.anew
  have hmessages := hhears.messages
  have hevery := hall.messages
  rw [hbase, hcount] at hview hheard
  rw [hnothing, List.nil_append] at hmessages hevery
  exact ⟨rfl, rfl, hclosed happenings [] rfl (0, 1) hconnected, hview,
    ⟨heard, hmessages, hheard.trans hanew, hhears.unmoved 0 (by simp [later])⟩, times, all, hevery,
    hleft.trans hsupply⟩

/-- **A restart is not altogether clean.**  A server stops while a message is queued for its sink, and
starts again: then the sink gets the message, while a new server with its configuration and its sink
has nothing for its sink, and nothing to do.  A server that is destroyed and stopped is refused the
start that a new one is granted. -/
theorem restart_hears_queued_message :
    let config : ServerConfig ⊕ ClientConfig := .inl { port := 0 }
    let peer : Endpoint := .v4 .loopback 49153
    let queued := (inhabited .connected [config]).after [.ask 0 (.setReceiver {}), .ask 0 .start,
      .use (.dial (.v4 .loopback 49152)), .act (.accept 0), .use (.write 0 [0x00, 7]),
      .act (.read 0 0 8), .act (.dispatch 0 0)]
    let w := (queued.ask 0 .stop).2
    let v := (w.anew 0 config (some {})).after [.ask 0 .start]
    let destroyed := (inhabited .connected [config]).after [.ask 0 (.setReceiver {}), .ask 0 .start,
      .ask 0 .destroy, .ask 0 .stop]
    w.messages 0 = [] ∧
      (w.after [.ask 0 .start, .act (.drain 0 0)]).messages 0 = [⟨[0x00, 7], peer⟩] ∧
      v.messages 0 = [] ∧ v.Quiet ∧
      (destroyed.ask 0 .start).1 ≠ .ok () ∧
      ((destroyed.anew 0 config (some {})).ask 0 .start).1 = .ok () := by
  intro config peer queued w v destroyed
  have hstill : v.Still := by decide +kernel
  exact ⟨by decide +kernel, by decide +kernel, by decide +kernel, hstill.quiet, by decide +kernel,
    by decide +kernel⟩

end World

end Framewire
