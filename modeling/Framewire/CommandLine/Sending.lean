/-
**The command `send` at work.**

The command has asked its client to send a message, and waits for replies.  It prints each one that
comes, and waits anew; when nothing comes while it waits it stops its client, and with that it ends,
whatever the client is about.  A slot that has not been connected by then never will be; and where
one has just been connected, and is still writing when the client does not wait for it any longer,
only a part of what it writes goes out.

What happens meanwhile is not for the command to decide.  How fast the network and the destination
are is a matter of the schedule; a schedule is told how far everything has come, and says what happens
next.  One of them is the prompt one, in which everything happens as soon as it can.

Main definitions:

* `Sending`, `Sending.Move`, `Sending.step`, `Sending.run` — the command, and what can happen;
* `World.cutShort` — a slot that is cut off while it writes;
* `Sending.Schedule`, `Sending.follow` — how a command goes on;
* `Sending.prompt` — the schedule in which nothing takes time but waiting;
* `Sending.start`, `Sending.outcome` — the beginning, and what has been printed.
-/

import Framewire.CommandLine.Run
import Framewire.World.Responder

set_option autoImplicit false

namespace Framewire

/-- What a run of the program came to. -/
structure Outcome where
  code : Nat := 0
  printed : List String := []
  report : Option String := none
deriving DecidableEq, Repr

/-- Whether an action is that something has taken too long. -/
def World.Action.isLate : World.Action → Bool
  | .expire _ _ | .giveUp _ _ => true
  | _ => false

/-- The command `send` while it waits for replies. -/
structure Sending where
  scene : Errand.Scene
  /-- the number of the client -/
  client : Nat
  /-- how long the wait for a reply lasts, in milliseconds -/
  wait : Nat
  /-- when the present wait ends -/
  deadline : Nat
  /-- the replies that were printed -/
  printed : List Message := []
  /-- whether the client was stopped -/
  stopped : Bool := false

/-- The dial of a slot has come about, and only so many bytes of what the slot writes go out before
its connection ends. -/
def World.cutShort (w : World) (node slot count : Nat) : Option World := do
  let (_, round) ← w.round? node
  let task ← round.pool.task? slot
  match task.phase with
  | .dialing first =>
    match w.network.dial task.destination with
    | (.connected socket, network) =>
      return { w with network := (network.write socket (first.take count)).2.close socket }
    | _ => none
  | _ => none

namespace Sending

/-- What can happen. -/
inductive Move where
  /-- the command prints a reply and waits anew -/
  | print
  /-- nothing has come: the command stops its client -/
  | stop
  /-- nothing has come: the command stops its client, while a slot writes what it sends first -/
  | cut (slot count : Nat)
  /-- something happens in the scene -/
  | scene (x : Errand.Step)

/-- The next reply that is not printed. -/
def reply? (s : Sending) : Option Message := (s.scene.world.messages s.client)[s.printed.length]?

/-- Whether the wait for a reply is over. -/
def isOver (s : Sending) : Bool :=
  !s.stopped && s.reply?.isNone && decide (s.deadline ≤ s.scene.world.now)

/-- The command stops its client in a world. -/
def halt (s : Sending) (w : World) : Sending :=
  let world := match w.node? s.client with
    | some n => w.stop s.client n.machine
    | none => w
  { s with scene := { s.scene with world }, stopped := true }

/-- What a move comes to, if it is possible. -/
def step (s : Sending) : Move → Option Sending
  | .print =>
    if s.stopped then none
    else s.reply?.map fun reply =>
      { s with printed := s.printed ++ [reply], deadline := s.scene.world.now + s.wait }
  | .stop => if s.isOver then some (s.halt s.scene.world) else none
  | .cut slot count =>
    if s.isOver then (s.scene.world.cutShort s.client slot count).map s.halt else none
  | .scene x => (s.scene.step x).map fun scene => { s with scene }

/-- What a move does; an impossible one does nothing. -/
def after (s : Sending) (move : Move) : Sending := (s.step move).getD s

/-- What a sequence of moves does. -/
def run (s : Sending) (moves : List Move) : Sending := moves.foldl after s

@[simp] theorem run_nil (s : Sending) : s.run [] = s := rfl

@[simp] theorem run_cons (s : Sending) (move : Move) (moves : List Move) :
    s.run (move :: moves) = (s.after move).run moves := rfl

theorem run_append (s : Sending) (first later : List Move) :
    s.run (first ++ later) = (s.run first).run later := List.foldl_append

/-! ### Schedules -/

/-- What happens next; where that is nothing, nothing more will happen. -/
abbrev Schedule := Sending → List Move

/-- The command goes on as a schedule says, until nothing more happens, so many times at most. -/
def follow (schedule : Schedule) : (times : Nat) → Sending → Sending
  | 0, s => s
  | times + 1, s =>
    match schedule s with
    | [] => s
    | move :: moves => follow schedule times (s.run (move :: moves))

/-- The first possible one of several moves. -/
def first? (s : Sending) (moves : List Move) : List Move :=
  (moves.find? fun move => (s.step move).isSome).toList

/-- What can happen without anybody waiting: the command prints, or a connector acts. -/
def immediate (s : Sending) : List Move :=
  .print :: (s.scene.world.actions.filter (!·.isLate)).map fun action => .scene (.act action)

/-- What can happen when nothing comes any more: the command stops its client, or something has taken
too long. -/
def overdue (s : Sending) : List Move :=
  .stop :: (s.scene.world.actions.filter (·.isLate)).map fun action => .scene (.act action)

/-- Time passes until something has taken too long. -/
def pause (s : Sending) : List Move :=
  if s.stopped ∨ s.deadline ≤ s.scene.world.now then []
  else
    let time := (s.scene.world.nextTimer s.deadline).getD s.deadline
    [.scene (.act (.pass (time - s.scene.world.now)))]

/-- Everything happens as soon as it can, and time passes only when nothing can happen. -/
def prompt (r : Responder) : Schedule := fun s =>
  match s.first? s.immediate, r.moves s.scene, s.first? s.overdue with
  | move :: _, _, _ => [move]
  | [], step :: steps, _ => (step :: steps).map .scene
  | [], [], move :: _ => [move]
  | [], [], [] => s.pause

/-! ### Beginning and end -/

/-- The command begins: its client has been asked to send a message. -/
def start (w : World) (listener : Nat) (config : ClientConfig) (m : Message) (wait : Nat) :
    Except Fault Sending :=
  (Program.beginSend w config m).map fun (client, world) =>
    { scene := { world, listener }, client, wait, deadline := world.now + wait }

/-- What has been printed. -/
def outcome (s : Sending) (m : Message) : Outcome where
  printed := Program.sendingLine m :: s.printed.map Program.replyLine

end Sending

end Framewire
