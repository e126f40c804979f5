/-
**The pool of a client's connections.**

A pool keeps at most one connection for each destination.  A destination that has payloads has a
*slot*, and for each slot there is a task with a queue.  The task waits for a first payload, dials,
writes that payload, and from then on writes the payloads of the queue one after the other until
the connection ends.  Then it *evicts* itself: it takes its slot out of the map if the slot is still
the one of the destination, and hands the payloads that are left in its queue to the pool again.

A payload that is submitted goes to the queue of its destination's slot; a slot whose queue takes
nothing any more is replaced.  Slots are numbered from one on, and no number is used twice.  Once
the pool is closed, it has no slots and takes no payloads.

The pool knows nothing about the network or about time: that a dial succeeded, or how a write went,
is told to it.  What became of payloads it tells in turn.  The type of payloads is arbitrary.

Main definitions:

* `Pool.Task`, `Pool.Phase` — the task of a slot, and how far it has come;
* `Pool` — the map from destinations to slots, and the tasks;
* `Pool.submit`, `Pool.evict`, `Pool.close` — the operations of the pool itself;
* `Pool.Event`, `Pool.step`, `Pool.run` — what can happen, and what it comes to;
* `Pool.Outcome` — what became of a payload.

Main results:

* `Pool.run_append` — a run can be cut anywhere;
* `Pool.submit_of_closed` — a closed pool takes nothing.
-/

import Framewire.Directory

set_option autoImplicit false

namespace Framewire

namespace Pool

/-- How far the task of a slot has come; `α` is the type of payloads. -/
inductive Phase (α : Type) where
  /-- it waits for a first payload -/
  | waiting
  /-- it dials, holding the first payload -/
  | dialing (first : α)
  /-- it has a connection and has written the first payload -/
  | connected
  /-- its connection has ended, or there never will be one -/
  | ending
deriving DecidableEq, Repr

/-- The task of a slot. -/
structure Task (α : Type) where
  /-- the number of the slot -/
  id : Nat
  destination : Endpoint
  /-- the payloads that were not taken, the oldest one first -/
  queue : List α := []
  /-- whether the queue takes payloads -/
  accepting : Bool := true
  phase : Phase α := .waiting
deriving DecidableEq, Repr

/-- What became of a payload, or that a dial began. -/
inductive Outcome (α : Type) where
  /-- the pool took it for its destination -/
  | queued (destination : Endpoint) (slot : Nat) (payload : α)
  /-- the pool is closed and drops it -/
  | refused (destination : Endpoint) (payload : α)
  /-- a slot begins to dial for it -/
  | dialed (destination : Endpoint) (slot : Nat) (payload : α)
  /-- it was written in full -/
  | written (destination : Endpoint) (slot : Nat) (payload : α)
  /-- it is lost with a dial that failed -/
  | undialed (destination : Endpoint) (slot : Nat) (payload : α)
  /-- it is lost with a write that failed -/
  | unwritten (destination : Endpoint) (slot : Nat) (payload : α)
  /-- it is dropped because its task was told to end, or the pool was closed before its turn came -/
  | abandoned (destination : Endpoint) (slot : Nat) (payload : α)
deriving DecidableEq, Repr

end Pool

/-- The slots of a client, and their tasks. -/
structure Pool (α : Type) where
  /-- the number of the slot of each destination that has one -/
  slots : Directory Nat := .empty
  /-- the tasks that have not ended, in the order of their numbers -/
  tasks : List (Pool.Task α) := []
  /-- the number that the next slot gets -/
  nextId : Nat := 1
  /-- whether the pool takes no payloads any more -/
  closed : Bool := false

namespace Pool

variable {α : Type}

instance : Inhabited (Pool α) := ⟨{}⟩

/-! ### Looking at a pool -/

/-- The number of destinations that have a slot. -/
def size (p : Pool α) : Nat := p.slots.size

/-- Whether no destination has a slot. -/
def isEmpty (p : Pool α) : Bool := p.slots.isEmpty

/-- Whether a destination has a slot. -/
def contains (p : Pool α) (destination : Endpoint) : Bool := p.slots.contains destination

/-- The task of a slot. -/
def task? (p : Pool α) (id : Nat) : Option (Task α) := p.tasks.find? fun task => task.id = id

/-- Whether the queue of a slot takes payloads. -/
def accepts (p : Pool α) (id : Nat) : Bool := (p.task? id).any (·.accepting)

/-- Whether a slot is the one of its destination. -/
def isCurrent (p : Pool α) (id : Nat) : Bool :=
  (p.task? id).any fun task => p.slots.get? task.destination = some id

/-! ### Operations -/

/-- Changes the task of a slot. -/
def modify (p : Pool α) (id : Nat) (f : Task α → Task α) : Pool α :=
  { p with tasks := p.tasks.map fun task => if task.id = id then f task else task }

/-- Adds a payload to the queue of a slot. -/
def enqueue (p : Pool α) (id : Nat) (payload : α) : Pool α :=
  p.modify id fun task => { task with queue := task.queue ++ [payload] }

/-- Gives a destination a new slot. -/
def openSlot (p : Pool α) (destination : Endpoint) : Pool α :=
  { p with
    slots := p.slots.insert destination p.nextId
    tasks := p.tasks ++ [{ id := p.nextId, destination }]
    nextId := p.nextId + 1 }

/-- The slot of a destination, which is opened if there is none. -/
def slotFor (p : Pool α) (destination : Endpoint) : Nat × Pool α :=
  match p.slots.get? destination with
  | some id => (id, p)
  | none => (p.nextId, p.openSlot destination)

/-- Takes the slot of a destination out of the map if it has the given number. -/
def unlink (p : Pool α) (destination : Endpoint) (id : Nat) : Pool α :=
  if p.slots.get? destination = some id then { p with slots := p.slots.erase destination } else p

/-- Submits a payload in at most `attempts` attempts: each finds a slot, and takes it out of the map
when its queue takes nothing. -/
def submitWithin (p : Pool α) (destination : Endpoint) (payload : α) :
    (attempts : Nat) → Pool α × List (Outcome α)
  | 0 => (p, [.refused destination payload])
  | attempts + 1 =>
    if p.closed then (p, [.refused destination payload])
    else
      let (id, p) := p.slotFor destination
      if p.accepts id then (p.enqueue id payload, [.queued destination id payload])
      else (p.unlink destination id).submitWithin destination payload attempts

/-- The number of attempts of a submission: a slot that is about to go may refuse the payload, a
fresh one does not. -/
def submitAttempts : Nat := 2

/-- Submits a payload for a destination. -/
def submit (p : Pool α) (destination : Endpoint) (payload : α) : Pool α × List (Outcome α) :=
  p.submitWithin destination payload submitAttempts

/-- Submits payloads one after the other. -/
def submitAll (p : Pool α) (destination : Endpoint) : List α → Pool α × List (Outcome α)
  | [] => (p, [])
  | payload :: rest =>
    let (p, first) := p.submit destination payload
    let (p, others) := p.submitAll destination rest
    (p, first ++ others)

/-- The queue of a slot takes nothing any more. -/
def shut (p : Pool α) (id : Nat) : Pool α :=
  p.modify id fun task => { task with accepting := false }

/-- The task of a slot is over. -/
def remove (p : Pool α) (id : Nat) : Pool α :=
  { p with tasks := p.tasks.filter fun task => task.id ≠ id }

/-- Ends a slot: out of the map, its queue shut, and what is left in the queue submitted again, or
dropped if the pool is closed. -/
def evict (p : Pool α) (id : Nat) : Pool α × List (Outcome α) :=
  match p.task? id with
  | none => (p, [])
  | some task =>
    let p := ((p.unlink task.destination id).shut id).remove id
    if p.closed then (p, task.queue.map (.abandoned task.destination id))
    else p.submitAll task.destination task.queue

/-- Closes the pool. -/
def close (p : Pool α) : Pool α := { p with closed := true, slots := .empty }

/-! ### What can happen -/

/-- What can happen to a pool. -/
inductive Event (α : Type) where
  /-- a payload is submitted -/
  | submit (destination : Endpoint) (payload : α)
  /-- a waiting task takes its first payload and begins to dial -/
  | dial (id : Nat)
  /-- a dial succeeds; whether the first payload is then written in full -/
  | dialed (id : Nat) (wrote : Bool)
  /-- a dial fails or takes too long -/
  | undialed (id : Nat)
  /-- a connected task takes the next payload; whether it is written in full -/
  | write (id : Nat) (wrote : Bool)
  /-- a connection ends, or a task is told to end before it has one -/
  | finish (id : Nat)
  /-- a task that has come to its end evicts itself -/
  | evict (id : Nat)
  /-- the pool is closed -/
  | close
deriving Repr

/-- The task of a slot enters a phase. -/
def enter (p : Pool α) (id : Nat) (phase : Phase α) : Pool α :=
  p.modify id fun task => { task with phase }

/-- The task of a slot takes a payload out of its queue and enters a phase. -/
def take (p : Pool α) (id : Nat) (rest : List α) (phase : Phase α) : Pool α :=
  p.modify id fun task => { task with queue := rest, phase }

/-- What an event comes to; nothing, where the task is not in the right phase for it. -/
def step (p : Pool α) : Event α → Pool α × List (Outcome α)
  | .submit destination payload => p.submit destination payload
  | .dial id =>
    match p.task? id with
    | some { phase := .waiting, queue := first :: rest, destination, .. } =>
      (p.take id rest (.dialing first), [.dialed destination id first])
    | _ => (p, [])
  | .dialed id wrote =>
    match p.task? id with
    | some { phase := .dialing first, destination, .. } =>
      if wrote then (p.enter id .connected, [.written destination id first])
      else (p.enter id .ending, [.unwritten destination id first])
    | _ => (p, [])
  | .undialed id =>
    match p.task? id with
    | some { phase := .dialing first, destination, .. } =>
      (p.enter id .ending, [.undialed destination id first])
    | _ => (p, [])
  | .write id wrote =>
    match p.task? id with
    | some { phase := .connected, queue := payload :: rest, destination, .. } =>
      if wrote then (p.take id rest .connected, [.written destination id payload])
      else (p.take id rest .ending, [.unwritten destination id payload])
    | _ => (p, [])
  | .finish id =>
    match p.task? id with
    | some { phase := .dialing first, destination, .. } =>
      (p.enter id .ending, [.abandoned destination id first])
    | some { phase := .waiting, .. } => (p.enter id .ending, [])
    | some { phase := .connected, .. } => (p.enter id .ending, [])
    | _ => (p, [])
  | .evict id =>
    match p.task? id with
    | some { phase := .ending, .. } => p.evict id
    | _ => (p, [])
  | .close => (p.close, [])

/-- What a sequence of events comes to: the pool after it, and what became of payloads on the way,
in order. -/
def run (p : Pool α) : List (Event α) → Pool α × List (Outcome α)
  | [] => (p, [])
  | event :: events =>
    let (p, first) := p.step event
    let (p, others) := p.run events
    (p, first ++ others)

@[simp] theorem run_nil (p : Pool α) : p.run [] = (p, []) := rfl

/-- What happens later goes on from where the first events led. -/
theorem run_append (p : Pool α) (first later : List (Event α)) :
    p.run (first ++ later) =
      (((p.run first).1.run later).1, (p.run first).2 ++ ((p.run first).1.run later).2) := by
  induction first generalizing p with
  | nil => simp [run]
  | cons event events ih => simp [run, ih]

/-- A pool that is closed takes nothing. -/
theorem submit_of_closed (p : Pool α) (destination : Endpoint) (payload : α)
    (h : p.closed = true) : p.submit destination payload = (p, [.refused destination payload]) := by
  simp [submit, submitAttempts, submitWithin, h]

end Pool

end Framewire
