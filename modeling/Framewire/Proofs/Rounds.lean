/-
**Connectors with earlier rounds.**

A connector that was started and stopped before differs from a new one in what the earlier rounds
have left: a server has their enrolments, none of which is current, and counts its connections on
from there; and there may be queues that still hold messages for the sink, each with a consumer of its
own.  Everything that a connector does, and everything that is asked of it, comes to the same with or
without them; what the consumers of earlier rounds do is nothing to the present round.

Main definitions:

* `Past` — what earlier rounds have left;
* `Server.behind`, `Client.behind`, `Machine.behind` — a connector behind it.

Main results:

* `Machine.react_behind`, `Machine.dispatch_behind`, `Machine.deliver_behind` — what a connector does;
* `Server.start_behind`, `Server.stop_behind`, `Server.send_behind`, and the same of clients — what
  is asked of it;
* `Machine.deliver_left` — **a message that is left reaches the sink all the same**.
-/

import Framewire.Proofs.ConnectionEnds

set_option autoImplicit false

namespace Framewire

/-! ### Sinks -/

namespace Receiver

variable (r : Receiver) (message : Message)

/-- Whether a sink takes a message. -/
def takes : Bool := (r.sink message).isNone

/-- Whether a sink sends a message back. -/
def sendsBack : Bool := r.takes message && r.echoes

end Receiver

/-! ### Directories -/

namespace Directory

variable {α β : Type}

theorem ext {d d' : Directory α} (h : d.entries = d'.entries) : d = d' := by
  cases d
  cases d'
  obtain rfl := h
  rfl

/-- The directory with other values. -/
def map (d : Directory α) (f : α → β) : Directory β where
  entries := d.entries.map fun entry => (entry.1, f entry.2)
  nodup := by simpa [Function.comp_def] using d.nodup

@[simp] theorem size_map (d : Directory α) (f : α → β) : (d.map f).size = d.size :=
  List.length_map ..

theorem get?_map (d : Directory α) (f : α → β) (e : Endpoint) :
    (d.map f).get? e = (d.get? e).map f := by
  rw [get?, get?, map, List.find?_map, Option.map_map, Option.map_map]
  rfl

@[simp] theorem contains_map (d : Directory α) (f : α → β) (e : Endpoint) :
    (d.map f).contains e = d.contains e := by
  rw [contains, contains, get?_map, Option.isSome_map]

theorem erase_map (d : Directory α) (f : α → β) (e : Endpoint) :
    (d.map f).erase e = (d.erase e).map f :=
  ext List.filter_map

theorem insert_map (d : Directory α) (f : α → β) (e : Endpoint) (a : α) :
    (d.map f).insert e (f a) = (d.insert e a).map f :=
  ext (congrArg (fun entries => (e, f a) :: entries) List.filter_map)

end Directory

/-! ### Registries -/

namespace Registry

variable (r : Registry) (old : List Enrolment)

/-- The registry behind enrolments of earlier rounds, none of which is current. -/
def behind : Registry where
  enrolments := old ++ r.enrolments
  current := r.current.map (old.length + ·)

theorem nextId_behind : (r.behind old).nextId = old.length + r.nextId := List.length_append

theorem enrolment?_behind (id : Nat) :
    (r.behind old).enrolment? (old.length + id) = r.enrolment? id := by
  rw [enrolment?, behind, List.getElem?_append_right (Nat.le_add_right ..), Nat.add_sub_cancel_left]
  rfl

theorem get?_behind (remote : Endpoint) :
    (r.behind old).current.get? remote = (r.current.get? remote).map (old.length + ·) :=
  Directory.get?_map ..

theorem current_behind_iff (remote : Endpoint) (id : Nat) :
    (r.behind old).current.get? remote = some (old.length + id) ↔
      r.current.get? remote = some id := by
  rw [get?_behind, Option.map_eq_some_iff]
  constructor
  · rintro ⟨id', hid', heq⟩
    rwa [← Nat.add_left_cancel heq]
  · exact fun h => ⟨id, h, rfl⟩

theorem isCurrent_behind (id : Nat) :
    (r.behind old).isCurrent (old.length + id) = r.isCurrent id := by
  rw [isCurrent, isCurrent, enrolment?_behind]
  congr
  funext enrolment
  exact decide_eq_decide.2 (current_behind_iff r old _ id)

theorem modify_behind (id : Nat) (f : Enrolment → Enrolment) :
    (r.behind old).modify (old.length + id) f = (r.modify id f).behind old := by
  have henrolments : (old ++ r.enrolments).modify (old.length + id) f =
      old ++ r.enrolments.modify id f := by
    induction old with
    | nil => simp
    | cons first old ih => 
        rw [List.length_cons, Nat.succ_add, List.cons_append, List.modify_succ_cons, ih]
        rfl
  exact congrArg (fun enrolments => (⟨enrolments, _⟩ : Registry)) henrolments

theorem hangUp_behind (id : Nat) :
    (r.behind old).hangUp (old.length + id) = (r.hangUp id).behind old :=
  modify_behind ..

theorem enrol_behind (remote : Endpoint) :
    ((r.behind old).enrol remote).2 = (r.enrol remote).2.behind old := by
  rw [enrol, enrol, nextId_behind]
  simp only [behind, List.append_assoc, Directory.insert_map]

theorem send_behind (message : Message) :
    (r.behind old).send message = ((r.send message).1, (r.send message).2.behind old) := by
  rw [send, send, get?_behind]
  cases r.current.get? message.remote with
  | none => rfl
  | some id =>
      dsimp only [Option.map_some]
      rw [enrolment?_behind, modify_behind]
      split <;> rfl

theorem receive_behind (id : Nat) :
    (r.behind old).receive (old.length + id) = ((r.receive id).1, (r.receive id).2.behind old) := by
  rw [receive, receive, enrolment?_behind, isCurrent_behind]
  cases r.enrolment? id with
  | none => rfl
  | some enrolment =>
      dsimp only
      cases enrolment.queue with
      | nil => rfl
      | cons payload queue => exact congrArg _ (modify_behind ..)

theorem withdraw_behind (id : Nat) :
    ((r.behind old).withdraw (old.length + id)).2 = (r.withdraw id).2.behind old := by
  rw [withdraw, withdraw, enrolment?_behind]
  cases r.enrolment? id with
  | none => rfl
  | some enrolment =>
      dsimp only
      by_cases hcurrent : r.current.get? enrolment.remote = some id
      · rw [if_pos hcurrent, if_pos ((current_behind_iff ..).2 hcurrent)]
        exact congrArg (Registry.mk _) (Directory.erase_map ..)
      · rw [if_neg hcurrent, if_neg (mt (current_behind_iff ..).1 hcurrent)]

theorem foldl_hangUp_behind (ids : List Nat) :
    (ids.map (old.length + ·)).foldl hangUp (r.behind old) = (ids.foldl hangUp r).behind old := by
  induction ids generalizing r with
  | nil => rfl
  | cons id ids ih => rw [List.map_cons, List.foldl_cons, List.foldl_cons, hangUp_behind, ih]

end Registry

/-! ### Hubs -/

/-- The connection under a later number. -/
def Attached.raise (a : Attached) (base : Nat) : Attached := { a with id := base + a.id }

namespace Hub

variable (h : Hub) (base id : Nat)

/-- The connections under later numbers. -/
def raise : Hub := { h with attached := h.attached.map fun a => a.raise base }

@[simp] theorem raise_zero : h.raise 0 = h := by
  simp [raise, Attached.raise]

theorem attached?_raise : (h.raise base).attached? (base + id) =
    (h.attached? id).map fun a => a.raise base := by
  rw [attached?, attached?, raise, List.find?_map]
  congr
  funext a
  simp [Attached.raise]

/-- The numbers of earlier rounds are nobody's. -/
theorem attached?_raise_of_lt {id : Nat} (hid : id < base) :
    (h.raise base).attached? id = none := by
  rw [attached?, raise, List.find?_eq_none]
  intro a ha
  obtain ⟨b, -, rfl⟩ := List.mem_map.1 ha
  have hne : ¬base + b.id = id := by omega
  simp [Attached.raise, hne]

theorem selecting?_raise : (h.raise base).selecting? (base + id) =
    (h.selecting? id).map fun a => a.raise base := by
  rw [selecting?, selecting?, attached?_raise]
  cases h.attached? id with
  | none => rfl
  | some a =>
      simp only [Option.map_some, Option.filter_some, Attached.raise]
      split <;> rfl

theorem attach_raise (socket : Nat) (handler : Handler) :
    (h.raise base).attach (base + id) socket handler = (h.attach id socket handler).raise base := by
  simp [attach, raise, Attached.raise]

theorem detach_raise : (h.raise base).detach (base + id) = (h.detach id).raise base := by
  simp [detach, raise, Attached.raise, List.filter_map, Function.comp_def]

theorem setHandler_raise (handler : Handler) :
    (h.raise base).setHandler (base + id) handler = (h.setHandler id handler).raise base := by
  simp only [setHandler, raise, List.map_map]
  congr 1
  refine List.map_congr_left fun a _ => ?_
  by_cases hid : a.id = id
  · simp [Attached.raise, hid]
  · simp [Attached.raise, hid]

theorem react_raise (now : Nat) (stimulus : Stimulus) :
    (h.raise base).react (base + id) now stimulus =
      (h.react id now stimulus).map fun (reaction, hub) => (reaction, hub.raise base) := by
  rw [react, react, attached?_raise]
  cases h.attached? id with
  | none => rfl
  | some a =>
      dsimp only [Option.map_some, Attached.raise]
      split
      · rw [setHandler_raise]
      · rw [detach_raise]

theorem dispatch_raise : (h.raise base).dispatch (base + id) =
    (h.dispatch id).map fun hub => hub.raise base := by
  rw [dispatch, dispatch, attached?_raise]
  cases h.attached? id with
  | none => rfl
  | some a =>
      dsimp only [Option.map_some, bind, Option.bind, Attached.raise]
      cases a.handler.undelivered with
      | nil => rfl
      | cons message rest =>
          dsimp only
          rw [setHandler_raise, show (h.raise base).queue = h.queue from rfl]
          cases h.queue.dispatch message <;> rfl

end Hub

/-! ### Servers -/

namespace Server

/-- What runs of a server, its connections under later numbers. -/
def Round.raise (round : Round) (base : Nat) : Round := { round with hub := round.hub.raise base }

variable (s : Server) (old : List Enrolment) (left : List SinkQueue)

/-- The server behind the enrolments of earlier rounds, and behind queues that they left. -/
def behind : Server :=
  { s with
    registry := s.registry.behind old
    retired := left ++ s.retired
    life := s.life.modify fun round => round.raise old.length }

theorem running_behind :
    (s.behind old left).life.running = s.life.running.map fun round => round.raise old.length := rfl

theorem isRunning_behind : (s.behind old left).isRunning = s.isRunning :=
  Option.isSome_map ..

theorem localAddress_behind : (s.behind old left).localAddress = s.localAddress := by
  rw [localAddress, localAddress, running_behind]
  cases s.life.running <;> rfl

theorem setReceiver_behind (receiver : Receiver) :
    (s.behind old left).setReceiver receiver =
      (s.setReceiver receiver).map fun s => s.behind old left := by
  have hsink : (s.behind old left).life.sink = s.life.sink := rfl
  rw [setReceiver, setReceiver, Lifecycle.setSink, Lifecycle.setSink, hsink]
  cases s.life.sink <;> rfl

theorem start_behind (network : Network) :
    (s.behind old left).start network = ((s.start network).1, (s.start network).2.map
      fun (s, network) => (s.behind old left, network)) := by
  have hobstacle : (s.behind old left).life.startObstacle? = s.life.startObstacle? := by
    have hrunning : (s.behind old left).life.isRunning = s.life.isRunning :=
      s.isRunning_behind old left
    rw [Lifecycle.startObstacle?, hrunning]
    rfl
  have hconfig : (s.behind old left).config = s.config := rfl
  rw [start, start, hobstacle, hconfig]
  cases s.life.startObstacle? with
  | some misuse => rfl
  | none =>
      dsimp only
      cases hacquire : (acquire s.config network).2 with
      | error fault => rfl
      | ok acquired =>
          obtain ⟨⟨address, listener, ⟨attached, queue⟩⟩, network⟩ := acquired
          obtain rfl : attached = [] := (acquire_eq_ok hacquire).1
          rfl

theorem stop_behind (network : Network) :
    (s.behind old left).stop network = ((s.stop network).1, (s.stop network).2.1.behind old left,
      (s.stop network).2.2) := by
  rw [stop, stop, running_behind]
  cases s.life.running with
  | none => rfl
  | some round =>
      have hids : (round.raise old.length).hub.attached.map (·.id) =
          (round.hub.attached.map (·.id)).map (old.length + ·) := by
        simp [Round.raise, Hub.raise, Attached.raise]
      have hclear : (s.behind old left).registry.clear = s.registry.clear.behind old := rfl
      have hsockets : (round.raise old.length).hub.attached.map (·.socket) =
          round.hub.attached.map (·.socket) := by
        simp [Round.raise, Hub.raise, Attached.raise]
      have hnotices : ((round.raise old.length).hub.attached.map fun a =>
          Notice.handlerDropped a.handler.remote) =
            round.hub.attached.map fun a => .handlerDropped a.handler.remote := by
        simp [Round.raise, Hub.raise, Attached.raise]
      dsimp only [Option.map_some]
      rw [hids, hsockets, hnotices, hclear, Registry.foldl_hangUp_behind]
      simp only [behind, Lifecycle.stop, Lifecycle.modify, Option.map_none, List.append_assoc]
      rfl

theorem destroy_behind (network : Network) :
    (s.behind old left).destroy network = ((s.destroy network).1,
      (s.destroy network).2.1.behind old left, (s.destroy network).2.2) := by
  rw [destroy, destroy, stop_behind]
  rfl

theorem send_behind (message : Message) :
    (s.behind old left).send message =
      (s.send message).map fun (notices, s) => (notices, s.behind old left) := by
  have hsink : (s.behind old left).life.sink = s.life.sink := rfl
  have hregistry : (s.behind old left).registry = s.registry.behind old := rfl
  rw [send, send, Lifecycle.admitSend, Lifecycle.admitSend, hsink, running_behind, hregistry,
    Registry.send_behind]
  cases s.life.sink with
  | none => rfl
  | some receiver => cases s.life.running <;> rfl

theorem accept_behind (socket : Nat) (remote : Endpoint) (now : Nat) :
    ((s.behind old left).accept socket remote now).2 =
      (s.accept socket remote now).2.behind old left := by
  have hregistry : (s.behind old left).registry = s.registry.behind old := rfl
  rw [accept, accept, hregistry, Registry.nextId_behind]
  simp only [behind, Registry.enrol_behind, Lifecycle.modify, Option.map_map, Function.comp_def,
    Round.raise, Hub.attach_raise]

theorem react_behind (id now : Nat) (stimulus : Stimulus) :
    ((s.behind old left).react (old.length + id) now stimulus).map
        (fun (reaction, _, s) => (reaction, s)) =
      (s.react id now stimulus).map fun (reaction, _, s) => (reaction, s.behind old left) := by
  rw [react, react, running_behind]
  cases s.life.running with
  | none => rfl
  | some round => 
      dsimp only [Option.map_some, bind, Option.bind, Round.raise]
      rw [Hub.react_raise]
      cases round.hub.react id now stimulus with
      | none => rfl
      | some reacted =>
          obtain ⟨reaction, hub⟩ := reacted
          dsimp only [Option.map_some]
          have hmodify : ((s.behind old left).life.modify fun round =>
              { round with hub := hub.raise old.length }) =
                (s.life.modify fun round => { round with hub }).modify fun round =>
                  round.raise old.length := by
            simp [behind, Lifecycle.modify, Function.comp_def, Round.raise]
          rw [hmodify]
          cases reaction.ended with
          | none => rfl
          | some result =>
              have hregistry : (s.behind old left).registry = s.registry.behind old := rfl
              dsimp only [pure, Option.map_some]
              rw [hregistry, Registry.withdraw_behind, Registry.hangUp_behind]
              rfl

theorem dispatch_behind (id : Nat) :
    (s.behind old left).dispatch (old.length + id) =
      (s.dispatch id).map fun s => s.behind old left := by
  rw [dispatch, dispatch, running_behind]
  cases s.life.running with
  | none => rfl
  | some round =>
      dsimp only [Option.map_some, bind, Option.bind, Round.raise]
      rw [Hub.dispatch_raise]
      cases round.hub.dispatch id with
      | none => rfl
      | some hub => simp [behind, Lifecycle.modify, Function.comp_def, Round.raise]

theorem queue?_behind (earlier : Option Nat) :
    (s.behind old left).queue? (earlier.map (left.length + ·)) = s.queue? earlier := by
  cases earlier with
  | none =>
      rw [Option.map_none, queue?, queue?, running_behind, Option.map_map]
      rfl
  | some k =>
      rw [Option.map_some, queue?, queue?, behind,
        List.getElem?_append_right (Nat.le_add_right ..), Nat.add_sub_cancel_left]

theorem setQueue_behind (queue : SinkQueue) (earlier : Option Nat) :
    (s.behind old left).setQueue queue (earlier.map (left.length + ·)) =
      (s.setQueue queue earlier).behind old left := by
  cases earlier with
  | none =>
      simp only [Option.map_none, setQueue, behind, Lifecycle.modify, Option.map_map,
        Function.comp_def, Round.raise, Hub.raise, Hub.setQueue]
  | some k => 
      simp only [Option.map_some, setQueue, behind,
        List.set_append_right _ _ (Nat.le_add_right ..), Nat.add_sub_cancel_left]

/-- Deliveries are the same behind earlier rounds, whose queues come first. -/
theorem deliver_behind (earlier : Option Nat) :
    (s.behind old left).deliver (earlier.map (left.length + ·)) =
      (s.deliver earlier).map fun (message, panic, notices, s) =>
        (message, panic, notices, s.behind old left) := by
  have hsink : (s.behind old left).life.sink = s.life.sink := rfl
  rw [deliver, deliver, hsink, queue?_behind]
  cases s.life.sink with
  | none => rfl
  | some receiver =>
      dsimp only [bind, Option.bind]
      cases s.queue? earlier with
      | none => rfl
      | some queue =>
          dsimp only
          cases queue.queue.head? with
          | none => rfl
          | some message =>
              dsimp only
              rw [setQueue_behind, send_behind]
              cases receiver.sink message with
              | some panic => rfl
              | none =>
                  cases receiver.echoes with
                  | false => rfl
                  | true => cases (s.setQueue _ earlier).send message <;> rfl

/-- The server after it was asked to send a message. -/
def sent (s : Server) (message : Message) : Server :=
  match s.send message with
  | .ok (_, s) => s
  | .error _ => s

/-- What an earlier round has left is delivered beside everything else. -/
theorem deliver_left {receiver : Receiver} {k : Nat} {queue : SinkQueue} {message : Message}
    (hsink : s.life.sink = some receiver) (hqueue : left[k]? = some queue)
    (hmessage : queue.queue.head? = some message) :
    ∃ notices, (s.behind old left).deliver (some k) = some (message, receiver.sink message, notices,
      (if receiver.sendsBack message then s.sent message else s).behind old
        (left.set k (queue.deliver receiver.sink))) := by
  obtain ⟨hlt, -⟩ := List.getElem?_eq_some_iff.1 hqueue
  have hbehind : (s.behind old left).life.sink = some receiver := hsink
  have hqueue' : (s.behind old left).queue? (some k) = some queue :=
    (List.getElem?_append_left hlt).trans hqueue
  have hset : (s.behind old left).setQueue (queue.deliver receiver.sink) (some k) =
      s.behind old (left.set k (queue.deliver receiver.sink)) :=
    congrArg (fun retired => { s.behind old left with retired }) (List.set_append_left _ _ hlt)
  rw [deliver, hbehind, Option.bind_eq_bind, Option.bind_some, hqueue', Option.bind_eq_bind,
    Option.bind_some, hmessage, Option.bind_eq_bind, Option.bind_some, hset]
  dsimp only
  rw [send_behind, Receiver.sendsBack, Receiver.takes, sent]
  cases receiver.sink message with
  | some panic => exact ⟨_, rfl⟩
  | none =>
      cases receiver.echoes with
      | false => exact ⟨_, rfl⟩
      | true => cases s.send message <;> exact ⟨_, rfl⟩

end Server

/-! ### Clients -/

namespace Client

variable (c : Client) (left : List SinkQueue)

/-- The client behind queues that earlier rounds left. -/
def behind : Client := { c with retired := left ++ c.retired }

theorem setReceiver_behind (receiver : Receiver) :
    (c.behind left).setReceiver receiver =
      (c.setReceiver receiver).map fun c => c.behind left := by
  have hlife : (c.behind left).life = c.life := rfl
  rw [setReceiver, setReceiver, hlife]
  cases c.life.setSink receiver <;> rfl

theorem start_behind : (c.behind left).start = c.start.map fun c => c.behind left := by
  have hlife : (c.behind left).life = c.life := rfl
  have hconfig : (c.behind left).config = c.config := rfl
  rw [start, start, hlife, hconfig]
  cases c.life.start (acquire c.config) <;> rfl

theorem stop_behind (network : Network) :
    (c.behind left).stop network = ((c.stop network).1, (c.stop network).2.1.behind left,
      (c.stop network).2.2) := by
  have hlife : (c.behind left).life = c.life := rfl
  rw [stop, stop, hlife]
  cases c.life.running with
  | none => rfl
  | some round => simp [behind]

theorem destroy_behind (network : Network) :
    (c.behind left).destroy network = ((c.destroy network).1,
      (c.destroy network).2.1.behind left, (c.destroy network).2.2) := by
  rw [destroy, destroy, stop_behind]
  rfl

theorem send_behind (message : Message) :
    (c.behind left).send message =
      (c.send message).map fun (notices, c) => (notices, c.behind left) := by
  have hlife : (c.behind left).life = c.life := rfl
  rw [send, send, hlife]
  cases c.life.admitSend <;> rfl

theorem queue?_behind (earlier : Option Nat) :
    (c.behind left).queue? (earlier.map (left.length + ·)) = c.queue? earlier := by
  cases earlier with
  | none => rfl
  | some k =>
      rw [Option.map_some, queue?, queue?, behind,
        List.getElem?_append_right (Nat.le_add_right ..), Nat.add_sub_cancel_left]

theorem setQueue_behind (queue : SinkQueue) (earlier : Option Nat) :
    (c.behind left).setQueue queue (earlier.map (left.length + ·)) =
      (c.setQueue queue earlier).behind left := by
  cases earlier with
  | none => rfl
  | some k =>
      simp only [Option.map_some, setQueue, behind,
        List.set_append_right _ _ (Nat.le_add_right ..), Nat.add_sub_cancel_left]

/-- Deliveries are the same behind earlier rounds, whose queues come first. -/
theorem deliver_behind (earlier : Option Nat) :
    (c.behind left).deliver (earlier.map (left.length + ·)) =
      (c.deliver earlier).map fun (message, panic, notices, c) =>
        (message, panic, notices, c.behind left) := by
  have hsink : (c.behind left).life.sink = c.life.sink := rfl
  rw [deliver, deliver, hsink, queue?_behind]
  cases c.life.sink with
  | none => rfl
  | some receiver =>
      dsimp only [bind, Option.bind]
      cases c.queue? earlier with
      | none => rfl
      | some queue =>
          dsimp only
          cases queue.queue.head? with
          | none => rfl
          | some message =>
              dsimp only
              rw [setQueue_behind, send_behind]
              cases receiver.sink message with
              | some panic => rfl
              | none =>
                  cases receiver.echoes with
                  | false => rfl
                  | true => cases (c.setQueue _ earlier).send message <;> rfl

/-- The client after it was asked to send a message. -/
def sent (c : Client) (message : Message) : Client :=
  match c.send message with
  | .ok (_, c) => c
  | .error _ => c

/-- What an earlier round has left is delivered beside everything else. -/
theorem deliver_left {receiver : Receiver} {k : Nat} {queue : SinkQueue} {message : Message}
    (hsink : c.life.sink = some receiver) (hqueue : left[k]? = some queue)
    (hmessage : queue.queue.head? = some message) :
    ∃ notices, (c.behind left).deliver (some k) = some (message, receiver.sink message, notices,
      (if receiver.sendsBack message then c.sent message else c).behind
        (left.set k (queue.deliver receiver.sink))) := by
  obtain ⟨hlt, -⟩ := List.getElem?_eq_some_iff.1 hqueue
  have hbehind : (c.behind left).life.sink = some receiver := hsink
  have hqueue' : (c.behind left).queue? (some k) = some queue :=
    (List.getElem?_append_left hlt).trans hqueue
  have hset : (c.behind left).setQueue (queue.deliver receiver.sink) (some k) =
      c.behind (left.set k (queue.deliver receiver.sink)) :=
    congrArg (fun retired => { c with retired }) (List.set_append_left _ _ hlt)
  rw [deliver, hbehind, Option.bind_eq_bind, Option.bind_some, hqueue', Option.bind_eq_bind,
    Option.bind_some, hmessage, Option.bind_eq_bind, Option.bind_some, hset]
  dsimp only
  rw [send_behind, Receiver.sendsBack, Receiver.takes, sent]
  cases receiver.sink message with
  | some panic => exact ⟨_, rfl⟩
  | none =>
      cases receiver.echoes with
      | false => exact ⟨_, rfl⟩
      | true => cases c.send message <;> exact ⟨_, rfl⟩

end Client

/-! ### Connectors -/

/-- What earlier rounds of a connector have left: the enrolments of its connections, and the queues
to its sink. -/
structure Past where
  enrolments : List Enrolment
  queues : List SinkQueue

/-- The messages that the queue of an earlier round still holds. -/
def Past.leftover (p : Past) (round : Nat) : List Message :=
  ((p.queues[round]?).map (·.queue)).getD []

/-- Those of them that the sink takes. -/
def Past.supply (p : Past) (sink : Option Receiver) (round : Nat) : List Message :=
  (p.leftover round).filter fun message => sink.any (·.takes message)

/-- The queue of an earlier round gives its next message to a sink. -/
def Past.deliver (p : Past) (sink : Sink) (round : Nat) : Past :=
  { p with queues := p.queues.modify round (·.deliver sink) }

namespace Past

variable {p : Past} {sink : Sink} {k : Nat}

theorem leftover_deliver_self {message : Message} {rest : List Message}
    (h : p.leftover k = message :: rest) : (p.deliver sink k).leftover k = rest := by
  rw [leftover] at h
  rw [leftover, deliver, List.getElem?_modify_eq]
  cases hqueue : p.queues[k]? with
  | none => simp [hqueue] at h
  | some queue =>
      rw [hqueue, Option.map_some, Option.getD_some] at h
      rw [Option.map_eq_map, Option.map_some, Option.map_some, Option.getD_some, SinkQueue.deliver, h]
      dsimp only
      split <;> rfl

theorem leftover_deliver_of_ne {j : Nat} (h : k ≠ j) :
    (p.deliver sink k).leftover j = p.leftover j := by
  rw [leftover, deliver, List.getElem?_modify_ne _ _ h, leftover]

end Past

/-- The numbers below this one belong to connections of earlier rounds. -/
def Past.base (p : Past) : Nat := p.enrolments.length

/-- Only servers have enrolments. -/
def Past.Fits (p : Past) : ServerConfig ⊕ ClientConfig → Prop
  | .inl _ => True
  | .inr _ => p.enrolments = []

namespace Machine

variable (m : Machine) (p : Past)

/-- The connector behind what earlier rounds have left. -/
def behind : Machine → Machine
  | server s => server (s.behind p.enrolments p.queues)
  | client c => client (c.behind p.queues)
  | pool r => pool r

@[simp] theorem standing?_behind : (m.behind p).standing? = m.standing? := by
  cases m with
  | server s => simp [behind, standing?, Server.behind]
  | client c => rfl
  | pool r => rfl

@[simp] theorem size_behind : (m.behind p).size = m.size := by
  cases m with
  | server s => exact Directory.size_map ..
  | client c => rfl
  | pool r => rfl

@[simp] theorem isConnected_behind (remote : Endpoint) :
    (m.behind p).isConnected remote = m.isConnected remote := by
  cases m with
  | server s => exact Directory.contains_map ..
  | client c => rfl
  | pool r => rfl

@[simp] theorem isRunning_behind : (m.behind p).isRunning = m.isRunning := by
  cases m with
  | server s => exact s.isRunning_behind ..
  | client c => rfl
  | pool r => rfl

@[simp] theorem localAddress_behind : (m.behind p).localAddress = m.localAddress := by
  cases m with
  | server s => exact s.localAddress_behind ..
  | client c => rfl
  | pool r => rfl

@[simp] theorem round?_behind : (m.behind p).round? = m.round? := by
  cases m <;> rfl

@[simp] theorem setRound_behind (r : Client.Round) :
    (m.behind p).setRound r = (m.setRound r).behind p := by
  cases m <;> rfl

section

variable {m p} {config : ServerConfig ⊕ ClientConfig} {st : Standing}

theorem isRunning_eq (hm : m.standing? = some (config, st)) : m.isRunning = st.isRunning := by
  cases m with
  | server s =>
      obtain ⟨-, rfl⟩ := Prod.mk.inj (Option.some.inj hm)
      rfl
  | client c =>
      obtain ⟨-, rfl⟩ := Prod.mk.inj (Option.some.inj hm)
      rfl
  | pool r => simp [standing?] at hm

/-- A connector is a server, or there are no enrolments behind it. -/
theorem server_or_client (hm : m.standing? = some (config, st)) (hp : p.Fits config) :
    (∃ s, m = server s) ∨ ∃ c, m = client c ∧ p.base = 0 := by
  cases m with
  | server s => exact .inl ⟨s, rfl⟩
  | client c =>
      obtain ⟨rfl, -⟩ := Prod.mk.inj (Option.some.inj hm)
      exact .inr ⟨c, rfl, List.length_eq_zero_iff.2 hp⟩
  | pool r => simp [standing?] at hm

theorem hub?_behind (hm : m.standing? = some (config, st)) (hp : p.Fits config) :
    (m.behind p).hub? = m.hub?.map fun hub => hub.raise p.base := by
  obtain ⟨s, rfl⟩ | ⟨c, rfl, hbase⟩ := server_or_client hm hp
  · simp [behind, hub?, Server.running_behind, Function.comp_def, Server.Round.raise, Past.base]
  · simp only [hbase, Hub.raise_zero, Option.map_id_fun']
    rfl

theorem nextPayload_behind (hm : m.standing? = some (config, st)) (hp : p.Fits config) (id : Nat) :
    (m.behind p).nextPayload (p.base + id) = m.nextPayload id := by
  obtain ⟨s, rfl⟩ | ⟨c, rfl, hbase⟩ := server_or_client hm hp
  · have hreceive := congrArg Prod.fst (s.registry.receive_behind p.enrolments id)
    exact hreceive
  · rw [hbase, Nat.zero_add]
    rfl

theorem takePayload_behind (hm : m.standing? = some (config, st)) (hp : p.Fits config) (id : Nat) :
    (m.behind p).takePayload (p.base + id) = (m.takePayload id).behind p := by
  obtain ⟨s, rfl⟩ | ⟨c, rfl, hbase⟩ := server_or_client hm hp
  · have hreceive := congrArg Prod.snd (s.registry.receive_behind p.enrolments id)
    simp only [behind, takePayload, Server.behind, Past.base, hreceive]
  · rfl

theorem react_behind (hm : m.standing? = some (config, st)) (hp : p.Fits config) (id now : Nat)
    (stimulus : Stimulus) :
    ((m.behind p).react (p.base + id) now stimulus).map (fun (reaction, _, m) => (reaction, m)) =
      (m.react id now stimulus).map fun (reaction, _, m) => (reaction, m.behind p) := by
  obtain ⟨s, rfl⟩ | ⟨c, rfl, hbase⟩ := server_or_client hm hp
  · have hs := s.react_behind p.enrolments p.queues id now stimulus
    rw [behind, react, react, Past.base]
    generalize (s.behind p.enrolments p.queues).react (p.enrolments.length + id) now stimulus =
      reacted at hs
    cases reacted <;> cases h : s.react id now stimulus <;> simp_all [behind]
  · rw [hbase, Nat.zero_add]
    have hlife : (c.behind p.queues).life = c.life := rfl
    rw [behind, react, react, hlife]
    cases c.life.running with
    | none => rfl
    | some round =>
        cases h : round.react id now stimulus with
        | none => simp [h]
        | some reacted =>
            simp only [h, Option.bind_eq_bind, Option.bind_some, Option.pure_def, Option.map_some]
            rfl

/-- A connector that does not know a connection dispatches nothing for it. -/
theorem dispatch_of_attached?_eq_none {connection : Nat}
    (h : ∀ hub, m.hub? = some hub → hub.attached? connection = none) :
    m.dispatch connection = none := by
  have hdispatch : ∀ hub, m.hub? = some hub → hub.dispatch connection = none := fun hub hhub => by
    rw [Hub.dispatch, h hub hhub]
    rfl
  cases m with
  | server s =>
      rw [dispatch, Server.dispatch]
      cases hround : s.life.running with
      | none => rfl
      | some round => simp [hdispatch round.hub (by simp [hub?, hround])]
  | client c =>
      rw [dispatch]
      cases hround : c.life.running with
      | none => rfl
      | some round => simp [hdispatch round.hub (by simp [hub?, hround])]
  | pool r => simp [dispatch, hdispatch r.hub rfl]

theorem dispatch_behind (hm : m.standing? = some (config, st)) (hp : p.Fits config) (id : Nat) :
    (m.behind p).dispatch (p.base + id) = (m.dispatch id).map fun m => m.behind p := by
  obtain ⟨s, rfl⟩ | ⟨c, rfl, hbase⟩ := server_or_client hm hp
  · rw [behind, dispatch, dispatch, Past.base, Server.dispatch_behind, Option.map_map,
      Option.map_map]
    rfl
  · rw [hbase, Nat.zero_add]
    have hlife : (c.behind p.queues).life = c.life := rfl
    rw [behind, dispatch, dispatch, hlife]
    cases c.life.running with
    | none => rfl
    | some round =>
        cases h : round.hub.dispatch id with
        | none => simp [h]
        | some hub =>
            simp only [h, Option.bind_eq_bind, Option.bind_some, Option.pure_def, Option.map_some]
            rfl

/-- Deliveries are the same behind earlier rounds, whose queues come first. -/
theorem deliver_behind (hm : m.standing? = some (config, st)) (earlier : Option Nat) :
    (m.behind p).deliver (earlier.map (p.queues.length + ·)) =
      (m.deliver earlier).map fun (message, panic, notices, m) =>
        (message, panic, notices, m.behind p) := by
  cases m with
  | server s =>
      rw [behind, deliver, deliver, Server.deliver_behind]
      cases s.deliver earlier <;> rfl
  | client c =>
      rw [behind, deliver, deliver, Client.deliver_behind]
      cases c.deliver earlier <;> rfl
  | pool r => simp [standing?] at hm

/-- The connector after it was asked to send a message. -/
def sent (message : Message) : Machine → Machine
  | server s => server (s.sent message)
  | client c => client (c.sent message)
  | pool r => pool (r.submit message).2

/-- The sink of a connector. -/
def receiver? : Machine → Option Receiver
  | server s => s.life.sink
  | client c => c.life.sink
  | pool _ => none

@[simp] theorem receiver?_behind : (m.behind p).receiver? = m.receiver? := by
  cases m <;> rfl

/-- Without a sink nothing is delivered. -/
theorem deliver_of_receiver?_eq_none (hm : m.standing? = some (config, st))
    (hsink : m.receiver? = none) (earlier : Option Nat) : m.deliver earlier = none := by
  cases m with
  | server s => simp [deliver, Server.deliver, show s.life.sink = none from hsink]
  | client c => simp [deliver, Client.deliver, show c.life.sink = none from hsink]
  | pool r => simp [standing?] at hm

theorem retired_behind (hm : m.standing? = some (config, st)) :
    (m.behind p).retired = p.queues ++ m.retired := by
  cases m with
  | server s => rfl
  | client c => rfl
  | pool r => simp [standing?] at hm

/-- What an earlier round has left is delivered beside everything else. -/
theorem deliver_left {receiver : Receiver} {k : Nat} {message : Message} {rest : List Message}
    (hsink : m.receiver? = some receiver) (hleft : p.leftover k = message :: rest) :
    ∃ notices, (m.behind p).deliver (some k) = some (message, receiver.sink message, notices,
      (if receiver.sendsBack message then m.sent message else m).behind
        (p.deliver receiver.sink k)) := by
  obtain ⟨queue, hqueue, hmessage⟩ :
      ∃ queue, p.queues[k]? = some queue ∧ queue.queue.head? = some message := by
    rw [Past.leftover] at hleft
    cases hqueue : p.queues[k]? with
    | none => simp [hqueue] at hleft
    | some queue => exact ⟨queue, rfl, by simpa [hqueue] using congrArg List.head? hleft⟩
  have hqueues : (p.deliver receiver.sink k).queues =
      p.queues.set k (queue.deliver receiver.sink) := by
    rw [Past.deliver, List.modify_eq_set_getElem?, hqueue]
    rfl
  cases m with
  | server s =>
      obtain ⟨notices, hdeliver⟩ := s.deliver_left p.enrolments p.queues hsink hqueue hmessage
      refine ⟨notices, ?_⟩
      rw [behind, deliver, hdeliver, ← hqueues]
      split <;> rfl
  | client c =>
      obtain ⟨notices, hdeliver⟩ := c.deliver_left p.queues hsink hqueue hmessage
      refine ⟨notices, ?_⟩
      rw [behind, deliver, hdeliver, ← hqueues]
      split <;> rfl
  | pool r => simp [receiver?] at hsink

end

end Machine

end Framewire
