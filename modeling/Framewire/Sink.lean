/-
**The sink and the queue in front of it.**

Received messages go through a bounded queue to a single consumer, the *sink*.  Whoever dispatches
a message waits while the queue is full.  The sink is given one message at a time, in the order of
the queue; when it panics on one, that is logged and the next one follows.  When the last
dispatcher is gone, the queue is emptied and the delivery ends; a dispatch after that is refused.

Main definitions:

* `Sink` — what a sink does with a message;
* `SinkQueue` — the queue, its dispatchers, and what was given to the sink so far;
* `SinkQueue.start` — a new queue, which needs room for one message at least;
* `SinkQueue.dispatch`, `SinkQueue.deliver` — one message into the queue, one out of it;
* `SinkQueue.Work`, `SinkQueue.Work.run` — messages to dispatch, and a schedule of turns.
-/

import Framewire.Notice

set_option autoImplicit false

namespace Framewire

/-- What a sink does with a message: it takes it, or it panics. -/
abbrev Sink := Message → Option Panic

/-- The queue in front of a sink. -/
structure SinkQueue where
  /-- how many messages the queue can hold -/
  capacity : Nat
  /-- the messages that wait for the sink, the oldest one first -/
  queue : List Message := []
  /-- how many dispatchers share the queue -/
  dispatchers : Nat := 1
  /-- whether the delivery has ended -/
  ended : Bool := false
  /-- the messages that were given to the sink, the last one first -/
  given : List Message := []
  /-- the messages that the sink took, the last one first -/
  taken : List Message := []
  /-- what was logged, the last notice first -/
  notices : List Notice := []
deriving DecidableEq, Repr

namespace SinkQueue

/-- A new queue for the named connector, with one dispatcher. -/
def start (name : String) (capacity : Nat) : Except Fault SinkQueue :=
  if capacity = 0 then
    .error (.invalidValue (name ++ " sink channel capacity must be greater than 0"))
  else
    .ok { capacity }

/-- Whether a dispatch has to wait. -/
def isFull (q : SinkQueue) : Bool := q.capacity ≤ q.queue.length

/-- What a dispatch comes to. -/
inductive Dispatch where
  /-- there is no room yet -/
  | waits
  /-- the message was queued -/
  | accepted (q : SinkQueue)
  /-- nobody will ever take the message -/
  | refused (fault : Fault)

/-- Adds a message to the queue, if there is room and somebody takes messages out of it. -/
def dispatch (q : SinkQueue) (message : Message) : Dispatch :=
  if q.ended then .refused (.channelSend "sending into a closed channel")
  else if q.isFull then .waits
  else .accepted { q with queue := q.queue ++ [message] }

/-- Gives the next message to the sink.  Without one, the delivery ends if no dispatcher is left. -/
def deliver (sink : Sink) (q : SinkQueue) : SinkQueue :=
  match q.queue with
  | [] => if q.dispatchers = 0 then { q with ended := true } else q
  | message :: queue =>
    match sink message with
    | none => { q with queue, given := message :: q.given, taken := message :: q.taken }
    | some panic =>
      { q with
        queue
        given := message :: q.given
        notices := .sinkPanicked message.remote panic :: q.notices }

/-- A sink that takes the message that waits longest leaves the rest of the queue. -/
theorem deliver_of_taken {q : SinkQueue} {message : Message} {queue : List Message}
    (hqueue : q.queue = message :: queue) {sink : Sink} (hsink : sink message = none) :
    q.deliver sink = { q with
      queue, given := message :: q.given, taken := message :: q.taken } := by
  simp only [deliver, hqueue, hsink]

/-- Another dispatcher shares the queue; without one to share with there is none. -/
def share (q : SinkQueue) : SinkQueue :=
  if q.dispatchers = 0 then q else { q with dispatchers := q.dispatchers + 1 }

/-- A dispatcher goes. -/
def release (q : SinkQueue) : SinkQueue := { q with dispatchers := q.dispatchers - 1 }

/-! ### Schedules -/

/-- Whose turn it is, and for what. -/
inductive Turn where
  /-- a dispatcher dispatches the next message -/
  | dispatch
  /-- a dispatcher is copied -/
  | share
  /-- a dispatcher goes -/
  | release
  /-- the delivery takes the next message -/
  | deliver
deriving DecidableEq, Repr

/-- A queue with the messages that are still to be dispatched, and what the dispatches so far came
to, the last one first. -/
structure Work where
  queue : SinkQueue
  pending : List Message
  results : List (Except Fault Unit) := []

namespace Work

/-- One turn.  A dispatcher that has to wait, or has nothing to dispatch, loses its turn. -/
def step (sink : Sink) (w : Work) : Turn → Work
  | .dispatch =>
    match w.pending with
    | [] => w
    | message :: pending =>
      if w.queue.dispatchers = 0 then w
      else
        match w.queue.dispatch message with
        | .waits => w
        | .accepted queue => { queue, pending, results := .ok () :: w.results }
        | .refused fault => { w with pending, results := .error fault :: w.results }
  | .share => { w with queue := w.queue.share }
  | .release => { w with queue := w.queue.release }
  | .deliver => { w with queue := w.queue.deliver sink }

/-- A schedule of turns. -/
def run (sink : Sink) (w : Work) (turns : List Turn) : Work := turns.foldl (step sink) w

@[simp] theorem run_nil (sink : Sink) (w : Work) : w.run sink [] = w := rfl

theorem run_append (sink : Sink) (w : Work) (first later : List Turn) :
    w.run sink (first ++ later) = (w.run sink first).run sink later := List.foldl_append

end Work

/-- The schedule in which every message is delivered as soon as it was dispatched, and the last
dispatcher goes after the last message. -/
def promptly (messages : List Message) : List Turn :=
  (messages.flatMap fun _ => [.dispatch, .deliver]) ++ [.release, .deliver]

/-- Dispatches messages and waits for the end of the delivery. -/
def deliverAll (sink : Sink) (q : SinkQueue) (messages : List Message) : Work :=
  Work.run sink { queue := q, pending := messages } (promptly messages)

end SinkQueue

end Framewire
