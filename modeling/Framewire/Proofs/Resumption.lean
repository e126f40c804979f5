/-
**A connector goes on after earlier rounds.**

A world in which a connector has earlier rounds behind it, and the world in which it is new, go on
side by side.  What happens in the first one is mirrored in the second: the same is asked, the
network is used in the same way, the other connectors do the same, and so does the connector itself,
which only numbers its connections and its rounds anew.  Beside that, the queues of earlier rounds
go on to give the sink what is left in them, each at its own pace.  The new connector knows nothing
of that; but when the sink sends such a message back, the new connector is asked to send it, too.

Main definitions:

* `World.behind`, `World.Follows` — a world with earlier rounds of a connector, up to what was
  noted;
* `World.Happening.lower?`, `World.Happening.raise` — what happens, numbered anew;
* `World.mirror`, `World.mirrored` — what happens to the new connector;
* `Heard` — what a sink took, with the rounds that it is from;
* `World.Passed`, `World.Resumed`, `World.Beside` — what becomes of earlier rounds, and of the two
  connectors.

Main results:

* `World.act_behind`, `World.deliver_behind`, `World.ask_behind` — **actions and requests come to
  the same**;
* `World.deliver_left` — what a message of an earlier round comes to;
* `World.Resumed.happen`, `World.Resumed.after` — **one step, and every run**;
* `World.Resumed.exhaust` — nothing is lost of what earlier rounds have left;
* `World.mirrored_map_raise` — everything that can happen to the new connector is mirrored.
-/

import Framewire.Proofs.ConnectorLife
import Framewire.Proofs.Rounds
import Framewire.World.Peer

set_option autoImplicit false

namespace Framewire

/-! ### Sinks -/

/-- What a sink has taken when it was given a message. -/
def Receiver.taken (r : Receiver) (message : Message) : List Message :=
  if r.takes message then [message] else []

/-- Messages that a sink took, each with the number of the earlier round that it is from, if it is
from one. -/
abbrev Heard := List (Option Nat × Message)

namespace Heard

/-- All messages, in the order in which the sink took them. -/
def messages (heard : Heard) : List Message := heard.map Prod.snd

/-- The messages of one round. -/
def of (heard : Heard) (source : Option Nat) : List Message :=
  (heard.filter fun entry => entry.1 = source).map Prod.snd

variable (heard later : Heard) (source : Option Nat)

@[simp] theorem messages_append : messages (heard ++ later) = heard.messages ++ later.messages :=
  List.map_append

@[simp] theorem of_append : of (heard ++ later) source = heard.of source ++ later.of source := by
  rw [of, List.filter_append, List.map_append]
  rfl

/-- Messages that are all from one round. -/
theorem of_map (taken : List Message) (origin : Option Nat) :
    of (taken.map (origin, ·)) source = if origin = source then taken else [] := by
  rw [of, List.filter_map]
  by_cases h : origin = source
  · simp [h, Function.comp_def]
  · simp [h, Function.comp_def]

@[simp] theorem messages_map (taken : List Message) (origin : Option Nat) :
    messages (taken.map (origin, ·)) = taken := by
  simp [messages, Function.comp_def]

/-- Without messages of earlier rounds, all messages are of the round that runs. -/
theorem messages_eq_of (h : ∀ k, heard.of (some k) = []) : heard.messages = heard.of none := by
  have hfilter : heard.filter (fun entry => entry.1 = none) = heard := by
    refine List.filter_eq_self.2 fun entry hentry => ?_
    obtain ⟨_ | k, message⟩ := entry
    · rfl
    · have hmem : (some k, message) ∈ heard.filter fun entry => entry.1 = some k :=
        List.mem_filter.2 ⟨hentry, by simp⟩
      rw [List.map_eq_nil_iff.1 (h k)] at hmem
      simp at hmem
  rw [of, hfilter, messages]

end Heard

namespace Machine

variable {m : Machine} {config : ServerConfig ⊕ ClientConfig} {st : Standing}

/-- The sink is a part of the standing. -/
theorem receiver?_eq (hm : m.standing? = some (config, st)) : m.receiver? = st.sink := by
  cases m with
  | server s =>
      obtain ⟨-, rfl⟩ := Prod.mk.inj (Option.some.inj hm)
      rfl
  | client c =>
      obtain ⟨-, rfl⟩ := Prod.mk.inj (Option.some.inj hm)
      rfl
  | pool r => simp [standing?] at hm

end Machine

/-! ### Worlds -/

/-- The connector behind what earlier rounds have left.  Its sink has taken other messages. -/
def Node.behind (n : Node) (p : Past) (received : List Message) : Node :=
  ⟨n.machine.behind p, received⟩

namespace World

variable {v w : World} {id node : Nat} {n : Node} {p : Past} {received : List Message}
  {config : ServerConfig ⊕ ClientConfig} {st : Standing} {action : Action}

/-- The world with earlier rounds of one of its connectors. -/
def behind (v : World) (id : Nat) (p : Past) (received : List Message) : World :=
  { v with nodes := v.nodes.modify id fun n => n.behind p received }

@[simp] theorem network_behind : (v.behind id p received).network = v.network := rfl

@[simp] theorem now_behind : (v.behind id p received).now = v.now := rfl

theorem node?_behind_self (hn : v.node? id = some n) (p : Past) (received : List Message) :
    (v.behind id p received).node? id = some (n.behind p received) := by
  rw [node?, behind, List.getElem?_modify_eq, ← node?, hn]
  rfl

theorem node?_behind_of_ne (hnode : node ≠ id) :
    (v.behind id p received).node? node = v.node? node := by
  rw [node?, node?]
  exact List.getElem?_modify_ne _ _ (Ne.symm hnode)

theorem set_behind_self (hn : v.node? id = some n) (n' : Node) (network : Network)
    (notices : List Notice) (p' : Past) (received' : List Message) :
    (v.behind id p received).set id (n'.behind p' received') network notices =
      (v.set id n' network notices).behind id p' received' := by
  have hnodes : (v.nodes.modify id fun n => n.behind p received).set id (n'.behind p' received') =
      (v.nodes.set id n').modify id fun n => n.behind p' received' := by
    have hn' : (v.set id n' network notices).node? id = some n' := by rw [node?_set hn, if_pos rfl]
    rw [modify_eq_set hn, List.set_set]
    exact ((modify_eq_set hn' fun n => n.behind p' received').trans (List.set_set ..)).symm
  exact congrArg (fun nodes => (⟨network, v.now, nodes, notices⟩ : World)) hnodes

theorem set_behind_of_ne (hnode : node ≠ id) (n' : Node) (network : Network)
    (notices : List Notice) :
    (v.behind id p received).set node n' network notices =
      (v.set node n' network notices).behind id p received := by
  have hnodes : (v.nodes.modify id fun n => n.behind p received).set node n' =
      (v.nodes.set node n').modify id fun n => n.behind p received := by
    refine List.ext_getElem? fun i => ?_
    simp only [List.getElem?_set, List.getElem?_modify, List.length_modify]
    by_cases hi : node = i
    · subst hi
      simp only [if_neg (Ne.symm hnode)]
      split <;> simp
    · simp only [if_neg hi]
  exact congrArg (fun nodes => (⟨network, v.now, nodes, notices⟩ : World)) hnodes

/-- Two worlds are the same but for earlier rounds of a connector, and for what was noted. -/
def Follows (id : Nat) (p : Past) (received : List Message) (v w : World) : Prop :=
  w.unlogged = (v.behind id p received).unlogged

theorem unlogged_behind :
    (v.unlogged.behind id p received).unlogged = (v.behind id p received).unlogged :=
  rfl

/-- What was noted does not matter. -/
theorem Follows.of_unlogged {v' : World} (h : Follows id p received v w)
    (hv : v'.unlogged = v.unlogged) : Follows id p received v' w := by
  rw [Follows, ← unlogged_behind, hv]
  exact h

/-! #### Other connectors -/

theorem Alike.follows {u u' : World} (hnode : node ≠ id)
    (h : v.Alike (v.behind id p received) node u u') : Follows id p received u u' := by
  cases h with
  | notes notices => rfl
  | replaces n network notices => exact congrArg unlogged (set_behind_of_ne hnode ..)

theorem act_elsewhere (hnode : node ≠ id) (haction : action.node? = some node) :
    Option.Rel (Follows id p received) (v.act action) ((v.behind id p received).act action) :=
  rel_imp (act_alike (node?_behind_of_ne hnode) haction) fun _ _ h => h.follows hnode

theorem ask_elsewhere (hnode : node ≠ id) (request : Request) :
    ((v.behind id p received).ask node request).1 = (v.ask node request).1 ∧
      Follows id p received (v.ask node request).2 ((v.behind id p received).ask node request).2 := by
  have hnode' : (v.behind id p received).nodes[node]? = v.node? node := node?_behind_of_ne hnode
  have halike : _ ∧ v.Alike (v.behind id p received) node _ _ := ask_alike hnode' request
  exact ⟨halike.1, halike.2.follows hnode⟩

/-! #### The connector itself -/

/-- The connection that an action of a handler is about. -/
def Action.connection? : Action → Option Nat
  | .read _ id _ | .dispatch _ id | .write _ id | .expire _ id => some id
  | _ => none

/-- The same action on a connection or a round of another number. -/
def Action.renumber (f g : Nat → Nat) : Action → Action
  | .read node id most => .read node (f id) most
  | .dispatch node id => .dispatch node (f id)
  | .write node id => .write node (f id)
  | .expire node id => .expire node (f id)
  | .drain node earlier => .drain node (g earlier)
  | action => action

/-- The action of a connector that has so many more connections and rounds behind it. -/
def Action.raise (base count : Nat) : Action → Action := renumber (base + ·) (count + ·)

/-- The action of a connector that has so many connections and rounds less behind it. -/
def Action.lower (base count : Nat) : Action → Action := renumber (· - base) (· - count)

/-- Whether an action is about one of the first connections or rounds. -/
def Action.isPast (base count : Nat) : Action → Bool
  | .drain _ earlier => earlier < count
  | action => action.connection?.any (· < base)

section

variable {base count : Nat}

theorem node?_renumber (f g : Nat → Nat) : (action.renumber f g).node? = action.node? := by
  cases action <;> rfl

theorem raise_lower (h : action.isPast base count = false) :
    (action.lower base count).raise base count = action := by
  cases action <;>
    simp_all [Action.isPast, Action.connection?, Action.lower, Action.raise, Action.renumber]

theorem lower_raise (base count : Nat) : (action.raise base count).lower base count = action := by
  cases action <;> simp [Action.lower, Action.raise, Action.renumber]

theorem isPast_raise (base count : Nat) : (action.raise base count).isPast base count = false := by
  cases action <;> simp [Action.isPast, Action.connection?, Action.raise, Action.renumber]

end

/-- What is said of a value may be said of what is made of it. -/
theorem rel_bind_map {α β : Type} {r : World → World → Prop} {x : Option α} {g : α → β}
    {f : α → Option World} {f' : β → Option World}
    (h : ∀ a, x = some a → Option.Rel r (f a) (f' (g a))) :
    Option.Rel r (x.bind f) ((x.map g).bind f') := by
  cases x with
  | none => exact .none
  | some a => exact h a rfl

section

variable (hn : v.node? id = some n) (hm : n.machine.standing? = some (config, st))
  (hp : p.Fits config)

include hn

/-- The connector is replaced, in both worlds by the same. -/
theorem follows_of_setMachine (machine : Machine) (network : Network)
    (notices notices' : List Notice) :
    Follows id p received (({ v with network }.setMachine id machine).note notices)
      (({ v.behind id p received with network }.setMachine id
        (machine.behind p)).note notices') := by
  rw [note_setMachine hn, note_setMachine (node?_behind_self hn p received)]
  have hset : (v.behind id p received).set id ({ n with machine }.behind p received) network
      (notices'.reverse ++ v.notices) = (v.set id { n with machine } network
        (notices'.reverse ++ v.notices)).behind id p received := set_behind_self hn ..
  exact (congrArg unlogged hset).trans rfl

theorem follows_of_setRound (network : Network) (result : List Notice × Client.Round) :
    Follows id p received ({ v with network }.setRound id n.machine result)
      ({ v.behind id p received with network }.setRound id (n.machine.behind p) result) := by
  rw [setRound, setRound, Machine.setRound_behind]
  exact follows_of_setMachine hn (n.machine.setRound result.2) network result.1 result.1

theorem round?_behind : (v.behind id p received).round? id =
    (v.round? id).map fun (machine, r) => (machine.behind p, r) := by
  rw [round?, round?, hn, node?_behind_self hn]
  dsimp only [bind, Option.bind, Node.behind]
  rw [Machine.round?_behind]
  cases n.machine.round? <;> rfl

/-- What is done with a running round of a client comes to the same. -/
theorem rel_round {f f' : Machine × Client.Round → Option World}
    (h : ∀ r, Option.Rel (Follows id p received) (f (n.machine, r)) (f' (n.machine.behind p, r))) :
    Option.Rel (Follows id p received) ((v.round? id).bind f)
      (((v.behind id p received).round? id).bind f') := by
  rw [round?_behind hn]
  refine rel_bind_map fun (machine, r) hr => ?_
  obtain ⟨n', hn', rfl, -⟩ := round?_eq_some hr
  obtain rfl : n = n' := Option.some.inj (hn.symm.trans hn')
  exact h r

include hp

theorem follows_of_react {machine : Machine} (hmachine : machine.standing? = some (config, st))
    (connection socket : Nat) (network : Network) (stimulus : Stimulus) :
    Option.Rel (Follows id p received) (v.react id connection socket machine network stimulus)
      ((v.behind id p received).react id (p.base + connection) socket (machine.behind p) network
        stimulus) := by
  have hreact := Machine.react_behind hmachine hp connection v.now stimulus
  rw [react, react, now_behind]
  generalize (machine.behind p).react (p.base + connection) v.now stimulus = reacted' at hreact
  generalize machine.react connection v.now stimulus = reacted at hreact
  cases reacted with
  | none =>
      obtain rfl : reacted' = none := by simpa using hreact
      exact .none
  | some reacted =>
      obtain ⟨⟨reaction, notices', machine'⟩, rfl, heq⟩ := Option.map_eq_some_iff.1 hreact
      obtain ⟨rfl, rfl⟩ := Prod.mk.inj heq
      exact .some (follows_of_setMachine hn reacted.2.2 _ reacted.2.1 notices')

include hm

theorem selecting?_behind (connection : Nat) :
    (v.behind id p received).selecting? id (p.base + connection) =
      (v.selecting? id connection).map fun (machine, a) => (machine.behind p, a.raise p.base) := by
  rw [selecting?, selecting?, hn, node?_behind_self hn]
  dsimp only [bind, Option.bind, Node.behind]
  rw [Machine.hub?_behind hm hp]
  cases n.machine.hub? with
  | none => rfl
  | some hub =>
      dsimp only [Option.map_some]
      rw [Hub.selecting?_raise]
      cases hub.selecting? connection <;> rfl

/-- What is done with a connection comes to the same under its new number. -/
theorem rel_selecting (connection : Nat) {f f' : Machine × Attached → Option World}
    (h : ∀ a, Option.Rel (Follows id p received) (f (n.machine, a))
      (f' (n.machine.behind p, a.raise p.base))) :
    Option.Rel (Follows id p received) ((v.selecting? id connection).bind f)
      (((v.behind id p received).selecting? id (p.base + connection)).bind f') := by
  rw [selecting?_behind hn hm hp]
  refine rel_bind_map fun (machine, a) hs => ?_
  obtain ⟨n', hub, hn', rfl, -⟩ := selecting?_eq_some hs
  obtain rfl : n = n' := Option.some.inj (hn.symm.trans hn')
  exact h a

omit hm hp in
/-- A connection is taken in by a server with or without earlier rounds. -/
theorem accept_behind : Option.Rel (Follows id p received) (v.act (.accept id))
    ((v.behind id p received).act (.accept id)) := by
  rw [act, act, hn, node?_behind_self hn]
  dsimp only [bind, Option.bind, Node.behind]
  cases n.machine with
  | server s =>
      dsimp only [Machine.behind]
      rw [Server.running_behind]
      refine rel_bind_map fun round _ => rel_bind fun accepted _ => .some ?_
      obtain ⟨socket, network⟩ := accepted
      dsimp only
      rw [Server.accept_behind]
      exact follows_of_setMachine hn (.server _) network _ _
  | client c => exact .none
  | pool r => exact .none

/-- **What the connector does, it does with or without earlier rounds.** -/
theorem act_behind (haction : action.node? = some id) (hgives : ¬action.Gives id) :
    Option.Rel (Follows id p received) (v.act action)
      ((v.behind id p received).act (action.raise p.base p.queues.length)) := by
  cases action with
  | accept _ =>
      obtain rfl := Option.some.inj haction
      exact accept_behind hn
  | read _ connection most =>
      obtain rfl := Option.some.inj haction
      dsimp only [Action.raise, Action.renumber]
      rw [act, act]
      refine rel_selecting hn hm hp connection fun a => ?_
      dsimp only [Attached.raise]
      rw [network_behind]
      split
      · exact follows_of_react hn hp hm connection ..
      · exact follows_of_react hn hp hm connection ..
      · exact follows_of_react hn hp hm connection ..
      · exact .none
  | dispatch _ connection =>
      obtain rfl := Option.some.inj haction
      dsimp only [Action.raise, Action.renumber]
      rw [act, act, hn, node?_behind_self hn]
      dsimp only [bind, Option.bind, Node.behind]
      rw [Machine.dispatch_behind hm hp]
      exact rel_bind_map fun machine _ => .some (follows_of_setMachine hn machine v.network [] [])
  | write _ connection =>
      obtain rfl := Option.some.inj haction
      dsimp only [Action.raise, Action.renumber]
      rw [act, act]
      refine rel_selecting hn hm hp connection fun a => ?_
      dsimp only [Attached.raise]
      rw [Machine.nextPayload_behind hm hp, Machine.takePayload_behind hm hp]
      split
      · exact follows_of_react hn hp ((n.machine.standing?_takePayload _).trans hm) connection ..
      · exact follows_of_react hn hp hm connection ..
      · exact .none
  | expire _ connection =>
      obtain rfl := Option.some.inj haction
      dsimp only [Action.raise, Action.renumber]
      rw [act, act]
      refine rel_selecting hn hm hp connection fun a => ?_
      dsimp only [Attached.raise]
      rw [now_behind]
      split
      · exact follows_of_react hn hp hm connection ..
      · exact .none
  | deliver _ =>
      obtain rfl := Option.some.inj haction
      exact absurd (.inl rfl) hgives
  | drain _ earlier =>
      obtain rfl := Option.some.inj haction
      exact absurd (.inr ⟨earlier, rfl⟩) hgives
  | dial _ slot =>
      obtain rfl := Option.some.inj haction
      exact rel_round hn fun r => rel_bind fun r' _ => .some
        (follows_of_setRound hn v.network ([], r'))
  | settle _ slot =>
      obtain rfl := Option.some.inj haction
      refine rel_round hn fun r => rel_bind fun settled _ => .some ?_
      obtain ⟨notices, r', network⟩ := settled
      exact follows_of_setRound hn network (notices, r')
  | giveUp _ slot =>
      obtain rfl := Option.some.inj haction
      exact rel_round hn fun r => rel_bind fun result _ => .some
        (follows_of_setRound hn v.network result)
  | evict _ slot =>
      obtain rfl := Option.some.inj haction
      exact rel_round hn fun r => rel_bind fun result _ => .some
        (follows_of_setRound hn v.network result)
  | pass ms => simp [Action.node?] at haction

omit hn hm hp in
/-- Two worlds go on side by side, in which the sink of the connector takes the same. -/
def Abreast (id : Nat) (p : Past) (received : List Message) (v v' w' : World) : Prop :=
  ∃ taken, v'.messages id = v.messages id ++ taken ∧ Follows id p (taken.reverse ++ received) v' w'

omit hp in
/-- **The queue of the round that runs gives the sink the same with or without earlier rounds**, and
so do the queues of rounds that have ended since. -/
theorem deliver_behind (earlier : Option Nat) :
    Option.Rel (Abreast id p received v) (v.deliver id earlier)
      ((v.behind id p received).deliver id (earlier.map (p.queues.length + ·))) := by
  have hn' := node?_behind_self hn p received
  rw [deliver, deliver, hn, hn']
  dsimp only [bind, Option.bind, Node.behind]
  rw [Machine.deliver_behind hm]
  refine rel_bind_map fun delivered _ => .some ?_
  obtain ⟨message, panic, notices, machine⟩ := delivered
  dsimp only
  rw [note_modify hn, note_modify hn']
  refine ⟨if panic.isNone then [message] else [], ?_, ?_⟩
  · rw [messages, messages, node?_set hn, if_pos rfl, hn]
    cases panic <;> simp
  · have hreceived : (if panic.isNone then message :: received else received) =
        (if panic.isNone then [message] else []).reverse ++ received := by
      split <;> rfl
    rw [hreceived]
    exact congrArg unlogged (set_behind_self hn
      ⟨machine, if panic.isNone then message :: n.received else n.received⟩ v.network
      (notices.reverse ++ v.notices) p _)

/-- The connections of earlier rounds are gone. -/
theorem act_of_lt {connection : Nat} (haction : action.node? = some id)
    (hconnection : action.connection? = some connection) (hlt : connection < p.base) :
    (v.behind id p received).act action = none := by
  have hhub : ∀ hub, (n.machine.behind p).hub? = some hub → hub.attached? connection = none := by
    intro hub hhub
    rw [Machine.hub?_behind hm hp] at hhub
    obtain ⟨hub', -, rfl⟩ := Option.map_eq_some_iff.1 hhub
    exact hub'.attached?_raise_of_lt p.base hlt
  have hselecting : (v.behind id p received).selecting? id connection = none := by
    rw [selecting?, node?_behind_self hn]
    dsimp only [bind, Option.bind, Node.behind]
    cases h : (n.machine.behind p).hub? with
    | none => rfl
    | some hub => simp [Hub.selecting?, hhub hub h]
  cases action with
  | read _ _ most =>
      obtain ⟨rfl, rfl⟩ := And.intro (Option.some.inj haction) (Option.some.inj hconnection)
      rw [act, hselecting]
      rfl
  | dispatch _ _ =>
      obtain ⟨rfl, rfl⟩ := And.intro (Option.some.inj haction) (Option.some.inj hconnection)
      rw [act, node?_behind_self hn]
      dsimp only [bind, Option.bind, Node.behind]
      rw [Machine.dispatch_of_attached?_eq_none hhub]
  | write _ _ =>
      obtain ⟨rfl, rfl⟩ := And.intro (Option.some.inj haction) (Option.some.inj hconnection)
      rw [act, hselecting]
      rfl
  | expire _ _ =>
      obtain ⟨rfl, rfl⟩ := And.intro (Option.some.inj haction) (Option.some.inj hconnection)
      rw [act, hselecting]
      rfl
  | accept _ => simp [Action.connection?] at hconnection
  | deliver _ => simp [Action.connection?] at hconnection
  | drain _ _ => simp [Action.connection?] at hconnection
  | dial _ _ => simp [Action.connection?] at hconnection
  | settle _ _ => simp [Action.connection?] at hconnection
  | giveUp _ _ => simp [Action.connection?] at hconnection
  | evict _ _ => simp [Action.connection?] at hconnection
  | pass _ => simp [Action.connection?] at hconnection

omit hm hp in
theorem called_behind {result result' : Except Fault (List Notice × Machine)}
    (h : result' = result.map fun (notices, machine) => (notices, machine.behind p)) :
    ((v.behind id p received).called id result').1 = (v.called id result).1 ∧
      Follows id p received (v.called id result).2
        ((v.behind id p received).called id result').2 := by
  subst h
  match result with
  | .ok (notices, machine) =>
    exact ⟨rfl, follows_of_setMachine hn machine v.network notices notices⟩
  | .error fault => exact ⟨rfl, rfl⟩

omit hm hp in
theorem start_behind (machine : Machine) :
    ((v.behind id p received).start id (machine.behind p)).1 = (v.start id machine).1 ∧
      Follows id p received (v.start id machine).2
        ((v.behind id p received).start id (machine.behind p)).2 := by
  cases machine with
  | server s =>
      rw [Machine.behind, start, start]
      dsimp only [network_behind]
      rw [Server.start_behind]
      obtain ⟨notices, fault | ⟨s', network⟩⟩ := s.start v.network
      · exact ⟨rfl, rfl⟩
      · exact ⟨rfl, follows_of_setMachine hn (.server s') network notices notices⟩
  | client c =>
      refine called_behind hn ?_
      rw [Client.start_behind]
      cases c.start <;> rfl
  | pool r =>
      refine called_behind hn ?_
      rfl

omit hm hp in
theorem stop_behind (machine : Machine) :
    Follows id p received (v.stop id machine)
      ((v.behind id p received).stop id (machine.behind p)) := by
  cases machine with
  | server s =>
      rw [Machine.behind, stop, stop, network_behind, Server.stop_behind]
      exact follows_of_setMachine hn (.server _) _ _ _
  | client c =>
      rw [Machine.behind, stop, stop, network_behind, Client.stop_behind]
      exact follows_of_setMachine hn (.client _) _ _ _
  | pool r => exact follows_of_setMachine hn (.pool r.close) v.network [] []

omit hm hp in
theorem destroy_behind (machine : Machine) :
    Follows id p received (v.destroy id machine)
      ((v.behind id p received).destroy id (machine.behind p)) := by
  cases machine with
  | server s =>
      rw [Machine.behind, destroy, destroy, network_behind, Server.destroy_behind]
      exact follows_of_setMachine hn (.server _) _ _ _
  | client c =>
      rw [Machine.behind, destroy, destroy, network_behind, Client.destroy_behind]
      exact follows_of_setMachine hn (.client _) _ _ _
  | pool r => exact follows_of_setMachine hn (.pool r.close) v.network [] []

omit hm hp in
/-- **What is asked of the connector comes to the same with or without earlier rounds.** -/
theorem ask_behind (request : Request) :
    ((v.behind id p received).ask id request).1 = (v.ask id request).1 ∧
      Follows id p received (v.ask id request).2 ((v.behind id p received).ask id request).2 := by
  rw [ask, ask, hn, node?_behind_self hn]
  dsimp only [Node.behind]
  cases request with
  | setReceiver receiver =>
      cases n.machine with
      | server s =>
          refine called_behind hn ?_
          rw [Server.setReceiver_behind]
          cases s.setReceiver receiver <;> rfl
      | client c =>
          refine called_behind hn ?_
          rw [Client.setReceiver_behind]
          cases c.setReceiver receiver <;> rfl
      | pool r =>
          refine called_behind hn ?_
          rfl
  | start => exact start_behind hn n.machine
  | stop => exact ⟨rfl, stop_behind hn n.machine⟩
  | destroy => exact ⟨rfl, destroy_behind hn n.machine⟩
  | send message =>
      cases n.machine with
      | server s =>
          refine called_behind hn ?_
          rw [Server.send_behind]
          cases s.send message <;> rfl
      | client c =>
          refine called_behind hn ?_
          rw [Client.send_behind]
          cases c.send message <;> rfl
      | pool r =>
          refine called_behind hn ?_
          rfl

omit hm hp in
/-- What is asked of a connector that is to send. -/
theorem ask_send_unlogged (message : Message) : (v.ask id (.send message)).2.unlogged =
    (v.set id { n with machine := n.machine.sent message } v.network v.notices).unlogged := by
  have hset : ∀ machine notices, (({ v with network := v.network }.setMachine id machine).note
      notices).unlogged = (v.set id { n with machine } v.network v.notices).unlogged :=
    fun machine notices => by rw [note_setMachine hn]; rfl
  rw [ask, hn]
  dsimp only
  obtain ⟨machine, received⟩ := n
  cases machine with
  | server s =>
      rw [send, Machine.sent, Server.sent]
      cases s.send message with
      | ok result => exact hset (.server result.2) result.1
      | error fault => exact congrArg unlogged (set_self hn).symm
  | client c =>
      rw [send, Machine.sent, Client.sent]
      cases c.send message with
      | ok result => exact hset (.client result.2) result.1
      | error fault => exact congrArg unlogged (set_self hn).symm
  | pool r => exact hset (.pool (r.submit message).2) (r.submit message).1

omit hm hp in
/-- **A message of an earlier round is delivered beside everything else**, and what the sink does
with it is the sink's doing. -/
theorem deliver_left {receiver : Receiver} {k : Nat} {message : Message} {rest : List Message}
    (hsink : n.machine.receiver? = some receiver) (hleft : p.leftover k = message :: rest)
    (received : List Message) :
    ∃ w', (v.behind id p received).deliver id (some k) = some w' ∧
      Follows id (p.deliver receiver.sink k) ((receiver.taken message).reverse ++ received)
        (if receiver.sendsBack message then (v.ask id (.send message)).2 else v) w' := by
  obtain ⟨notices, hdeliver⟩ := Machine.deliver_left hsink hleft
  have hn' := node?_behind_self hn p received
  have htaken : (if (receiver.sink message).isNone then message :: received else received) =
      (receiver.taken message).reverse ++ received := by
    rw [Receiver.taken, Receiver.takes]
    split <;> rfl
  rw [deliver, hn']
  dsimp only [bind, Option.bind, Node.behind]
  rw [hdeliver]
  refine ⟨_, rfl, ?_⟩
  dsimp only
  rw [note_modify hn', htaken]
  generalize (receiver.taken message).reverse ++ received = received'
  have hset : ∀ machine : Machine, Follows id (p.deliver receiver.sink k) received'
      (v.set id { n with machine } v.network (notices.reverse ++ v.notices))
      ((v.behind id p received).set id ⟨machine.behind (p.deliver receiver.sink k), received'⟩
        v.network (notices.reverse ++ v.notices)) := fun machine =>
    congrArg unlogged (set_behind_self hn { n with machine } v.network
      (notices.reverse ++ v.notices) (p.deliver receiver.sink k) received')
  split
  · exact (hset (n.machine.sent message)).of_unlogged (ask_send_unlogged hn message)
  · exact (hset n.machine).of_unlogged ((congrArg unlogged (set_self hn).symm).trans rfl)

omit hp in
/-- A queue of an earlier round that is empty gives the sink nothing. -/
theorem deliver_of_leftover_eq_nil {k : Nat} (hk : k < p.queues.length)
    (hleft : p.leftover k = []) : (v.behind id p received).deliver id (some k) = none := by
  cases hdeliver : (n.machine.behind p).deliver (some k) with
  | none =>
      rw [deliver, node?_behind_self hn]
      dsimp only [bind, Option.bind, Node.behind]
      rw [hdeliver]
  | some delivered =>
      obtain ⟨queue, hqueue, hmessage⟩ := Machine.queue?_of_deliver hdeliver
      rw [Machine.queue?, Machine.retired_behind hm, List.getElem?_append_left hk] at hqueue
      rw [Past.leftover, hqueue] at hleft
      simp only [Option.map_some, Option.getD_some] at hleft
      simp [hleft] at hmessage

end

/-! #### Runs -/

/-- What happens to the new connector when something happens to one that has so many connections and
rounds behind it: nothing, if it is about them. -/
def Happening.lower? (id base count : Nat) : Happening → Option Happening
  | .act action =>
    if action.node? = some id then
      if action.isPast base count then none else some (.act (action.lower base count))
    else some (.act action)
  | happening => some happening

/-- What happens to a connector that has so many connections and rounds behind it when something
happens to the new one. -/
def Happening.raise (id base count : Nat) : Happening → Happening
  | .act action =>
    if action.node? = some id then .act (action.raise base count) else .act action
  | happening => happening

/-- What the sink asks of a connector when it gets a message of an earlier round. -/
def sentBack (w : World) (id : Nat) : Happening → List Happening
  | .act (.drain _ earlier) => Option.toList do
    let n ← w.node? id
    let receiver ← n.machine.receiver?
    let queue ← n.machine.retired[earlier]?
    let message ← queue.queue.head?
    if receiver.sendsBack message then return .ask id (.send message) else none
  | _ => []

/-- What happens to a new connector when something happens to one with earlier rounds: `base` is the
number of connections that it had then, `count` the number of queues that it left.  The new
connector numbers its connections and rounds from the beginning.  It has none of the messages of
earlier rounds, but what the sink asks for when it gets one is the sink's doing. -/
def mirror (w : World) (id base count : Nat) (x : Happening) : List Happening :=
  match x.lower? id base count with
  | some x => [x]
  | none => w.sentBack id x

/-- What happens to a new connector when several things happen to one with earlier rounds. -/
def mirrored (w : World) (id base count : Nat) : List Happening → List Happening
  | [] => []
  | x :: happenings => w.mirror id base count x ++ (w.happen x).mirrored id base count happenings

section

variable {base count : Nat} {x : Happening}

theorem lower?_of_ne (haction : action.node? ≠ some id) :
    Happening.lower? id base count (.act action) = some (.act action) := if_neg haction

theorem lower?_of_isPast (haction : action.node? = some id)
    (hpast : action.isPast base count = true) :
    Happening.lower? id base count (.act action) = none := by
  rw [Happening.lower?, if_pos haction, if_pos hpast]

theorem lower?_of_not_isPast (haction : action.node? = some id)
    (hpast : action.isPast base count = false) :
    Happening.lower? id base count (.act action) = some (.act (action.lower base count)) := by
  rw [Happening.lower?, if_pos haction, if_neg (by simp [hpast])]

theorem mirror_of_lower? {y : Happening} (h : x.lower? id base count = some y) :
    w.mirror id base count x = [y] := by
  rw [mirror, h]

theorem mirror_of_isPast (haction : action.node? = some id)
    (hpast : action.isPast base count = true) :
    w.mirror id base count (.act action) = w.sentBack id (.act action) := by
  rw [mirror, lower?_of_isPast haction hpast]

/-- Numbers that are raised are no numbers of earlier rounds. -/
theorem lower?_raise (id base count : Nat) (x : Happening) :
    (x.raise id base count).lower? id base count = some x := by
  cases x with
  | ask node request => rfl
  | use use => rfl
  | act action =>
      rw [Happening.raise]
      split
      · next haction =>
        have haction' : (action.raise base count).node? = some id :=
          (node?_renumber ..).trans haction
        rw [lower?_of_not_isPast haction' (isPast_raise base count), lower_raise]
      · next haction => exact lower?_of_ne haction

/-- **Everything that can happen to the new connector is mirrored.** -/
theorem mirrored_map_raise (w : World) (id base count : Nat) (others : List Happening) :
    w.mirrored id base count (others.map (Happening.raise id base count)) = others := by
  induction others generalizing w with
  | nil => rfl
  | cons x others ih =>
      rw [List.map_cons, mirrored, mirror_of_lower? (lower?_raise id base count x), ih]
      rfl

theorem mirrored_append (w : World) (id base count : Nat) (first later : List Happening) :
    w.mirrored id base count (first ++ later) =
      w.mirrored id base count first ++ (w.after first).mirrored id base count later := by
  induction first generalizing w with
  | nil => rfl
  | cons x first ih =>
      rw [List.cons_append, mirrored, ih, mirrored, List.append_assoc]
      rfl

theorem drain_ne_raise {k : Nat} (hk : k < count) (x : Happening) :
    .act (.drain id k) ≠ x.raise id base count := by
  intro heq
  have hlower := lower?_raise id base count x
  rw [← heq, lower?_of_isPast rfl (by simpa [Action.isPast] using hk)] at hlower
  simp at hlower

theorem mirror_unlogged : w.unlogged.mirror id base count x = w.mirror id base count x := rfl

end

/-- **What the connector does by itself, it does side by side with one that has earlier rounds.** -/
theorem act_abreast (hn : v.node? id = some n) (hm : n.machine.standing? = some (config, st))
    (hp : p.Fits config) (haction : action.node? = some id) :
    Option.Rel (Abreast id p received v) (v.act action)
      ((v.behind id p received).act (action.raise p.base p.queues.length)) := by
  by_cases hgives : action.Gives id
  · rcases hgives with rfl | ⟨earlier, rfl⟩
    · exact deliver_behind hn hm none
    · exact deliver_behind hn hm (some earlier)
  · have hbehind : Option.Rel (Follows id p received) (v.act action)
        ((v.behind id p received).act (action.raise p.base p.queues.length)) :=
      act_behind hn hm hp haction hgives
    have hmessages : (v.happen (.act action)).messages id = v.messages id :=
      messages_happen v fun other heq => by rwa [← Happening.act.inj heq]
    rw [happen] at hmessages
    generalize (v.behind id p received).act (action.raise p.base p.queues.length) = acted at hbehind
    generalize v.act action = acted' at hbehind hmessages
    cases hbehind with
    | none => exact .none
    | some hfollows => exact .some ⟨[], by simpa using hmessages, hfollows⟩

/-- What becomes of earlier rounds: the sink takes what their queues hold, of each in order. -/
structure Passed (sink : Option Receiver) (p p' : Past) (heard : Heard) : Prop where
  enrolments_eq : p'.enrolments = p.enrolments
  length_eq : p'.queues.length = p.queues.length
  leftover : ∀ k, p'.leftover k <:+ p.leftover k
  supply : ∀ k, heard.of (some k) ++ p'.supply sink k = p.supply sink k

namespace Passed

variable {sink : Option Receiver} {p' p'' : Past} {heard later : Heard}

/-- Messages of the round that runs do not concern earlier rounds. -/
theorem refl (sink : Option Receiver) (p : Past) (taken : List Message) :
    Passed sink p p (taken.map (none, ·)) where
  enrolments_eq := rfl
  length_eq := rfl
  leftover _ := List.suffix_refl _
  supply k := by rw [Heard.of_map, if_neg (by simp), List.nil_append]

theorem trans (h : Passed sink p p' heard) (h' : Passed sink p' p'' later) :
    Passed sink p p'' (heard ++ later) where
  enrolments_eq := h'.enrolments_eq.trans h.enrolments_eq
  length_eq := h'.length_eq.trans h.length_eq
  leftover k := (h'.leftover k).trans (h.leftover k)
  supply k := by rw [Heard.of_append, List.append_assoc, h'.supply, h.supply]

/-- The queue of an earlier round gives its next message to the sink. -/
theorem deliver {receiver : Receiver} {k : Nat} {message : Message} {rest : List Message}
    (hleft : p.leftover k = message :: rest) :
    Passed (some receiver) p (p.deliver receiver.sink k)
      ((receiver.taken message).map (some k, ·)) where
  enrolments_eq := rfl
  length_eq := List.length_modify ..
  leftover j := by
    by_cases hj : k = j
    · subst hj
      rw [Past.leftover_deliver_self hleft, hleft]
      exact List.suffix_cons ..
    · exact (Past.leftover_deliver_of_ne hj).symm ▸ List.suffix_refl (p.leftover j)
  supply j := by
    rw [Heard.of_map, Past.supply, Past.supply]
    by_cases hj : k = j
    · subst hj
      rw [if_pos rfl, Past.leftover_deliver_self hleft, hleft, List.filter_cons, Receiver.taken,
        Option.any_some]
      split <;> rfl
    · rw [if_neg (by simpa using hj), Past.leftover_deliver_of_ne hj, List.nil_append]

theorem base_eq (h : Passed sink p p' heard) : p'.base = p.base :=
  congrArg List.length h.enrolments_eq

/-- What has left the queues does not come back. -/
theorem leftover_eq_nil (h : Passed sink p p' heard) {k : Nat} (hempty : p.leftover k = []) :
    p'.leftover k = [] :=
  List.suffix_nil.1 (hempty ▸ h.leftover k)

/-- An empty queue gives the sink nothing. -/
theorem of_eq_nil (h : Passed sink p p' heard) {k : Nat} (hempty : p.leftover k = []) :
    heard.of (some k) = [] := by
  have hsupply := h.supply k
  rw [Past.supply, Past.supply, hempty, List.filter_nil, List.append_eq_nil_iff] at hsupply
  exact hsupply.1

end Passed

/-- A connector that goes on after earlier rounds, and a new one.  `sink` is the sink that the
connector had in these rounds. -/
structure Resumed (id : Nat) (config : ServerConfig ⊕ ClientConfig) (sink : Option Receiver)
    (p : Past) (received : List Message) (v w : World) : Prop where
  follows : Follows id p received v w
  standing : ∃ st, v.standing? id = some (config, st) ∧
    ∀ receiver, sink = some receiver → st.sink = some receiver
  fits : p.Fits config
  supplied : sink = none → p.queues = []

/-- What several things that happen come to: `heard` are the messages that the sink of the connector
with earlier rounds takes, and those of the round that runs are the new one's. -/
structure Beside (id : Nat) (config : ServerConfig ⊕ ClientConfig) (sink : Option Receiver)
    (p : Past) (received : List Message) (v : World) (happenings : List Happening) (v' w' : World)
    (p' : Past) (heard : Heard) : Prop where
  passed : Passed sink p p' heard
  resumed : Resumed id config sink p' (heard.messages.reverse ++ received) v' w'
  messages : v'.messages id = v.messages id ++ heard.of none
  drained : ∀ k, .act (.drain id k) ∉ happenings → heard.of (some k) = []

/-- What happens after what has happened. -/
theorem Beside.trans {sink : Option Receiver} {v₁ w₁ v₂ w₂ : World} {p₁ p₂ : Past}
    {first later : Heard} {happenings others : List Happening}
    (h : Beside id config sink p received v happenings v₁ w₁ p₁ first)
    (h' : Beside id config sink p₁ (first.messages.reverse ++ received) v₁ others v₂ w₂ p₂ later) :
    Beside id config sink p received v (happenings ++ others) v₂ w₂ p₂ (first ++ later) where
  passed := h.passed.trans h'.passed
  resumed := by
    rw [Heard.messages_append, List.reverse_append, List.append_assoc]
    exact h'.resumed
  messages := by rw [h'.messages, h.messages, Heard.of_append, List.append_assoc]
  drained k hk := by
    rw [List.mem_append, not_or] at hk
    rw [Heard.of_append, h.drained k hk.1, h'.drained k hk.2, List.append_nil]

namespace Resumed

variable {sink : Option Receiver}

/-- Whoever has left a message had a sink. -/
theorem exists_receiver (h : Resumed id config sink p received v w) {k : Nat}
    (hk : k < p.queues.length) : ∃ receiver, sink = some receiver := by
  refine Option.isSome_iff_exists.1 (Option.isSome_iff_ne_none.2 fun hnone => ?_)
  rw [h.supplied hnone] at hk
  exact absurd hk (Nat.not_lt_zero k)

/-- The sink of a connector stays what it is. -/
theorem standing_after (h : Resumed id config sink p received v w) (happenings : List Happening) :
    ∃ st, (v.after happenings).standing? id = some (config, st) ∧
      ∀ receiver, sink = some receiver → st.sink = some receiver := by
  obtain ⟨st, hst, hsink⟩ := h.standing
  exact ⟨_, standing?_after hst happenings, fun receiver hreceiver =>
    Standing.sink_after (hsink receiver hreceiver) _⟩

/-- What happens leaves earlier rounds as they are. -/
theorem keep (h : Resumed id config sink p received v w) {x y : Happening} {w' : World}
    {taken : List Message} (hmessages : (v.happen y).messages id = v.messages id ++ taken)
    (hfollows : Follows id p (taken.reverse ++ received) (v.happen y) w') :
    Beside id config sink p received v [x] (v.after [y]) w' p (taken.map (none, ·)) where
  passed := .refl sink p taken
  resumed := by
    rw [Heard.messages_map]
    exact ⟨hfollows, h.standing_after [y], h.fits, h.supplied⟩
  messages := by
    rw [Heard.of_map, if_pos rfl]
    exact hmessages
  drained k _ := by rw [Heard.of_map, if_neg (by simp)]

/-- Nothing happens. -/
theorem stay (h : Resumed id config sink p received v w) (happenings : List Happening) :
    Beside id config sink p received v happenings v w p [] where
  passed := .refl sink p []
  resumed := h
  messages := (List.append_nil _).symm
  drained _ _ := rfl

/-- What was noted has no influence on what happens. -/
theorem happen_of_behind (h : Resumed id config sink p received v w) {x : Happening} {v' : World}
    {p' : Past} {heard : Heard}
    (hbeside : Beside id config sink p received v [x] v' ((v.behind id p received).happen x) p'
      heard) :
    Beside id config sink p received v [x] v' (w.happen x) p' heard := by
  have hw : w.unlogged = (v.behind id p received).unlogged := h.follows
  have hhappen := unlogged_happen w x
  rw [hw, unlogged_happen] at hhappen
  exact { hbeside with
    resumed := { hbeside.resumed with follows := hhappen.symm.trans hbeside.resumed.follows } }

theorem mirror_eq (h : Resumed id config sink p received v w) (base count : Nat) (x : Happening) :
    w.mirror id base count x = (v.behind id p received).mirror id base count x := by
  have hw : w.unlogged = (v.behind id p received).unlogged := h.follows
  rw [← mirror_unlogged, hw, mirror_unlogged]

end Resumed

/-- What the sink asks for when it gets the first message that a round has left. -/
theorem sentBack_behind (hn : v.node? id = some n) (hm : n.machine.standing? = some (config, st))
    {k : Nat} (hk : k < p.queues.length) :
    (v.behind id p received).sentBack id (.act (.drain id k)) =
      match p.leftover k, st.sink with
      | message :: _, some receiver =>
        if receiver.sendsBack message then [.ask id (.send message)] else []
      | _, _ => [] := by
  have hreceiver : (n.machine.behind p).receiver? = st.sink :=
    Machine.receiver?_behind.trans (Machine.receiver?_eq hm)
  have hqueue : (n.machine.behind p).retired[k]? = p.queues[k]? := by
    rw [Machine.retired_behind hm, List.getElem?_append_left hk]
  rw [sentBack, node?_behind_self hn, Option.bind_eq_bind, Option.bind_some, Node.behind, hreceiver,
    hqueue, Past.leftover, List.getElem?_eq_getElem hk]
  dsimp only [bind, Option.bind, Option.map_some, Option.getD_some]
  cases st.sink with
  | none => cases p.queues[k].queue <;> rfl
  | some receiver =>
      cases p.queues[k].queue with
      | nil => rfl
      | cons message rest =>
          dsimp only [List.head?_cons]
          split <;> rfl

namespace Resumed

variable {sink : Option Receiver}

/-- A queue of an earlier round gives the sink its next message, if it has one. -/
theorem drain (h : Resumed id config sink p received v (v.behind id p received)) {k : Nat}
    (hk : k < p.queues.length) :
    ∃ p' heard, Beside id config sink p received v [.act (.drain id k)]
      (v.after ((v.behind id p received).sentBack id (.act (.drain id k))))
      ((v.behind id p received).happen (.act (.drain id k))) p' heard ∧
        p'.leftover k = (p.leftover k).tail := by
  obtain ⟨st, hst, hsupplied⟩ := h.standing
  obtain ⟨n, hn, hm⟩ := standing?_eq_some_iff.1 hst
  rw [sentBack_behind hn hm hk, happen, World.act]
  cases hleft : p.leftover k with
  | nil =>
      rw [deliver_of_leftover_eq_nil hn hm hk hleft]
      exact ⟨p, [], h.stay _, hleft⟩
  | cons message rest =>
      -- the sink of the round that left the message is the connector's still
      obtain ⟨receiver, rfl⟩ := h.exists_receiver hk
      have hsink := hsupplied receiver rfl
      obtain ⟨w', hdeliver, hfollows⟩ :=
        World.deliver_left hn ((Machine.receiver?_eq hm).trans hsink) hleft received
      rw [hsink, hdeliver, Option.getD_some]
      dsimp only
      generalize hback : (if receiver.sendsBack message = true then
        [Happening.ask id (.send message)] else []) = happenings
      have hafter : v.after happenings =
          if receiver.sendsBack message then (v.ask id (.send message)).2 else v := by
        rw [← hback]
        split <;> rfl
      have hmessages : (v.after happenings).messages id = v.messages id := by
        rw [hafter]
        split
        · exact messages_happen v (x := .ask id (.send message)) (by simp)
        · rfl
      refine ⟨p.deliver receiver.sink k, (receiver.taken message).map (some k, ·),
        ⟨.deliver hleft, ⟨?_, h.standing_after happenings, h.fits, by simp⟩, ?_, ?_⟩,
        Past.leftover_deliver_self hleft⟩
      · rw [Heard.messages_map, hafter]
        exact hfollows
      · rw [hmessages, Heard.of_map, if_neg (by simp), List.append_nil]
      · intro j hj
        rw [Heard.of_map, if_neg]
        rintro heq
        exact hj (by rw [Option.some.inj heq]; exact List.mem_singleton_self _)

/-- One action of the connector. -/
theorem act (h : Resumed id config sink p received v (v.behind id p received))
    (haction : action.node? = some id) :
    ∃ p' heard, Beside id config sink p received v [.act action]
      (v.after ((v.behind id p received).mirror id p.base p.queues.length (.act action)))
      ((v.behind id p received).happen (.act action)) p' heard := by
  obtain ⟨st, hst, -⟩ := h.standing
  obtain ⟨n, hn, hm⟩ := standing?_eq_some_iff.1 hst
  cases hpast : action.isPast p.base p.queues.length with
  | true =>
      rw [mirror_of_isPast haction hpast]
      by_cases hdrain : ∃ k, action = .drain id k
      · obtain ⟨k, rfl⟩ := hdrain
        obtain ⟨p', heard, hbeside, -⟩ := h.drain (by simpa [Action.isPast] using hpast)
        exact ⟨p', heard, hbeside⟩
      · -- connections of earlier rounds are gone
        obtain ⟨connection, hconnection, hlt⟩ : ∃ connection,
            action.connection? = some connection ∧ connection < p.base := by
          cases action with
          | drain node k => exact absurd ⟨k, by rw [Option.some.inj haction]⟩ hdrain
          | _ => simpa [Action.isPast, Option.any_eq_true] using hpast
        have hback : (v.behind id p received).sentBack id (.act action) = [] := by
          cases action <;> first | rfl | simp [Action.connection?] at hconnection
        rw [hback, World.happen, act_of_lt hn hm h.fits haction hconnection hlt]
        exact ⟨p, [], h.stay _⟩
  | false =>
      rw [mirror_of_lower? (lower?_of_not_isPast haction hpast)]
      have haction' : (action.lower p.base p.queues.length).node? = some id :=
        (node?_renumber ..).trans haction
      have habreast : Option.Rel (Abreast id p received v) _ ((v.behind id p received).act _) :=
        act_abreast hn hm h.fits haction'
      rw [raise_lower hpast] at habreast
      have hstay : Abreast id p received v v (v.behind id p received) :=
        ⟨[], (List.append_nil _).symm, rfl⟩
      obtain ⟨taken, hmessages, hfollows⟩ := rel_getD habreast hstay
      exact ⟨p, _, h.keep hmessages hfollows⟩

/-- **One step**: what happens to a connector with earlier rounds happens to a new one. -/
theorem happen (h : Resumed id config sink p received v w) (x : Happening) :
    ∃ p' heard, Beside id config sink p received v [x]
      (v.after (w.mirror id p.base p.queues.length x)) (w.happen x) p' heard := by
  -- two worlds that differ in what was noted do the same, so this one may be `v` behind `p`
  have hbehind : Resumed id config sink p received v (v.behind id p received) :=
    { h with follows := rfl }
  rw [h.mirror_eq]
  suffices ∃ p' heard, Beside id config sink p received v [x]
      (v.after ((v.behind id p received).mirror id p.base p.queues.length x))
      ((v.behind id p received).happen x) p' heard by
    obtain ⟨p', heard, hbeside⟩ := this
    exact ⟨p', heard, h.happen_of_behind hbeside⟩
  have hkeep : ∀ {y : Happening}, (∀ action, y = .act action → ¬action.Gives id) →
      Follows id p received (v.happen y) ((v.behind id p received).happen x) →
        ∃ p' heard, Beside id config sink p received v [x] (v.after [y])
          ((v.behind id p received).happen x) p' heard := by
    intro y hgives hfollows
    have hmessages := (messages_happen v hgives).trans (List.append_nil _).symm
    exact ⟨p, _, hbehind.keep hmessages hfollows⟩
  cases x with
  | ask node request =>
      refine hkeep (fun action heq => Happening.noConfusion heq) ?_
      change Follows id p received (v.ask node request).2 _
      by_cases hnode : node = id
      · subst hnode
        obtain ⟨st, hst, -⟩ := h.standing
        obtain ⟨n, hn, -⟩ := standing?_eq_some_iff.1 hst
        exact (ask_behind hn request).2
      · exact (ask_elsewhere hnode request).2
  | use use => exact hkeep (fun action heq => Happening.noConfusion heq) rfl
  | act action =>
      by_cases hnode : action.node? = some id
      · exact hbehind.act hnode
      · rw [mirror_of_lower? (lower?_of_ne hnode)]
        refine hkeep ?_ ?_
        · rintro other heq (hgives | ⟨earlier, hgives⟩)
          · exact hnode (by rw [Happening.act.inj heq, hgives]; rfl)
          · exact hnode (by rw [Happening.act.inj heq, hgives]; rfl)
        · cases hother : action.node? with
          | none =>
            cases action with
            | pass ms => exact rfl
            | _ => simp [Action.node?] at hother
          | some node =>
            have hne : node ≠ id := fun hid => hnode (hid ▸ hother)
            exact rel_getD (act_elsewhere hne hother) rfl

/-- **Every run**: what a connector does after earlier rounds, a new one does. -/
theorem after (h : Resumed id config sink p received v w) (happenings : List Happening) :
    ∃ p' heard, Beside id config sink p received v happenings
      (v.after (w.mirrored id p.base p.queues.length happenings)) (w.after happenings) p' heard := by
  induction happenings generalizing v w p received with
  | nil => exact ⟨p, [], h.stay []⟩
  | cons x happenings ih =>
      obtain ⟨p₁, first, hfirst⟩ := h.happen x
      obtain ⟨p₂, later, hlater⟩ := ih hfirst.resumed
      rw [hfirst.passed.base_eq, hfirst.passed.length_eq, ← World.after_append] at hlater
      exact ⟨p₂, first ++ later, hfirst.trans hlater⟩

/-- The queue of an earlier round gives the sink its next message, whatever was noted. -/
theorem drain_of_follows (h : Resumed id config sink p received v w) {k : Nat}
    (hk : k < p.queues.length) :
    ∃ p' heard, Beside id config sink p received v [.act (.drain id k)]
      (v.after (w.mirror id p.base p.queues.length (.act (.drain id k))))
      (w.happen (.act (.drain id k))) p' heard ∧ p'.leftover k = (p.leftover k).tail := by
  obtain ⟨p', heard, hbeside, hleft⟩ := drain { h with follows := rfl } hk
  rw [h.mirror_eq, mirror_of_isPast rfl (by simpa [Action.isPast] using hk)]
  exact ⟨p', heard, h.happen_of_behind hbeside, hleft⟩

/-- **The queue of an earlier round gives the sink all of its messages**, if it moves often
enough. -/
theorem exhaust (h : Resumed id config sink p received v w) (k : Nat) :
    let drains := List.replicate (p.leftover k).length (Happening.act (.drain id k))
    ∃ p' heard, Beside id config sink p received v drains
      (v.after (w.mirrored id p.base p.queues.length drains)) (w.after drains) p' heard ∧
        p'.leftover k = [] := by
  induction hleft : p.leftover k generalizing v w p received with
  | nil => exact ⟨p, [], h.stay [], hleft⟩
  | cons message rest ih =>
      have hk : k < p.queues.length := by
        by_contra hge
        rw [Past.leftover, List.getElem?_eq_none (Nat.not_lt.1 hge)] at hleft
        cases hleft
      obtain ⟨p₁, first, hfirst, htail⟩ := h.drain_of_follows hk
      obtain ⟨p₂, later, hlater, hempty⟩ := ih hfirst.resumed (htail.trans (by rw [hleft]; rfl))
      rw [hfirst.passed.base_eq, hfirst.passed.length_eq, ← World.after_append] at hlater
      exact ⟨p₂, first ++ later, hfirst.trans hlater, hempty⟩

/-- A sink that sends nothing back asks for nothing, and neither does one for which nothing is
left. -/
theorem sentBack_eq_nil (h : Resumed id config sink p received v w)
    (hsilent : (∀ receiver, sink = some receiver → receiver.echoes = false) ∨
      ∀ k, p.leftover k = []) (haction : action.isPast p.base p.queues.length = true) :
    w.sentBack id (.act action) = [] := by
  obtain ⟨st, hst, hsupplied⟩ := h.standing
  obtain ⟨n, hn, hm⟩ := standing?_eq_some_iff.1 hst
  cases action with
  | drain node k =>
      have hk : k < p.queues.length := by simpa [Action.isPast] using haction
      have hw : w.unlogged = (v.behind id p received).unlogged := h.follows
      change w.unlogged.sentBack id (.act (.drain id k)) = []
      rw [hw]
      change (v.behind id p received).sentBack id (.act (.drain id k)) = []
      rw [sentBack_behind hn hm hk]
      split
      · next message rest receiver hleft hsink =>
        rcases hsilent with hsilent | hempty
        · obtain ⟨receiver', hreceiver'⟩ := h.exists_receiver hk
          obtain rfl : receiver' = receiver :=
            Option.some.inj ((hsupplied _ hreceiver').symm.trans hsink)
          rw [Receiver.sendsBack, hsilent _ hreceiver', Bool.and_false]
          rfl
        · simp [hempty] at hleft
      · rfl
  | _ => rfl

/-- **Where the sink sends nothing back, or nothing is left**, what happens to the new connector is
what happens to the one with earlier rounds, under other numbers. -/
theorem mirrored_eq (h : Resumed id config sink p received v w)
    (hsilent : (∀ receiver, sink = some receiver → receiver.echoes = false) ∨
      ∀ k, p.leftover k = []) (happenings : List Happening) :
    w.mirrored id p.base p.queues.length happenings =
      happenings.filterMap (Happening.lower? id p.base p.queues.length) := by
  induction happenings generalizing v w p received with
  | nil => rfl
  | cons x happenings ih =>
      obtain ⟨p', heard, hbeside⟩ := h.happen x
      have hmirrored := ih hbeside.resumed
        (hsilent.imp_right fun hempty k => hbeside.passed.leftover_eq_nil (hempty k))
      rw [hbeside.passed.base_eq, hbeside.passed.length_eq] at hmirrored
      rw [mirrored, hmirrored, List.filterMap_cons]
      cases hlower : x.lower? id p.base p.queues.length with
      | some y => rw [mirror_of_lower? hlower]; rfl
      | none =>
          obtain ⟨action, rfl, haction, hpast⟩ : ∃ action, x = .act action ∧
              action.node? = some id ∧ action.isPast p.base p.queues.length = true := by
            cases x with
            | ask node request => simp [Happening.lower?] at hlower
            | use use => simp [Happening.lower?] at hlower
            | act action =>
                refine ⟨action, rfl, ?_⟩
                by_contra hnot
                rw [Happening.lower?] at hlower
                split at hlower
                · next haction =>
                  split at hlower
                  · next hpast => exact hnot ⟨haction, hpast⟩
                  · simp at hlower
                · simp at hlower
          rw [mirror_of_isPast haction hpast, h.sentBack_eq_nil hsilent hpast]
          rfl

end Resumed

end World

end Framewire
