/-
**The life of a connector.**

A connector is given a sink once and for all.  With a sink it can be started and stopped, any
number of times, until it is destroyed; while it runs it can send.  What it needs to run is
acquired by each start, which fails without it, and given up by each stop.

Main definitions:

* `Misuse` — what a connector is not ready for;
* `Lifecycle` — the sink of a connector, whether it was destroyed, and what runs;
* `Lifecycle.setSink`, `Lifecycle.start`, `Lifecycle.stop`, `Lifecycle.destroy` — its life;
* `Lifecycle.admitSend` — what runs, if a message may be sent.
-/

import Framewire.Fault

set_option autoImplicit false

namespace Framewire

/-- What a connector is not ready for. -/
inductive Misuse where
  | startWithoutSink
  | startDestroyed
  | startTwice
  | sendWithoutSink
  | sendStopped
  | sinkTwice
deriving DecidableEq, Repr

/-- The message about a misuse. -/
def Misuse.message : Misuse → String
  | startWithoutSink => "Cannot start without message sink."
  | startDestroyed => "Connector already destroyed"
  | startTwice => "Connector already started"
  | sendWithoutSink => "Cannot send without message sink."
  | sendStopped => "Connector not started"
  | sinkTwice => "Message sink already set"

/-- A misuse as a fault. -/
def Misuse.fault (m : Misuse) : Fault := .illegalState m.message

/-- The state of a connector: `σ` is the type of sinks, `ρ` that of what runs. -/
structure Lifecycle (σ ρ : Type) where
  sink : Option σ := none
  destroyed : Bool := false
  running : Option ρ := none

namespace Lifecycle

variable {σ ρ : Type}

/-- Whether the connector runs. -/
def isRunning (l : Lifecycle σ ρ) : Bool := l.running.isSome

/-- Gives the connector its sink. -/
def setSink (l : Lifecycle σ ρ) (sink : σ) : Except Misuse (Lifecycle σ ρ) :=
  match l.sink with
  | some _ => .error .sinkTwice
  | none => .ok { l with sink := some sink }

/-- Why the connector cannot be started, whatever there is to acquire. -/
def startObstacle? (l : Lifecycle σ ρ) : Option Misuse :=
  if l.sink.isNone then some .startWithoutSink
  else if l.destroyed then some .startDestroyed
  else if l.isRunning then some .startTwice
  else none

/-- Starts the connector with what was acquired for it. -/
def start (l : Lifecycle σ ρ) (acquired : Except Fault ρ) : Except Fault (Lifecycle σ ρ) :=
  match l.startObstacle? with
  | some misuse => .error misuse.fault
  | none => acquired.map fun round => { l with running := some round }

/-- Stops the connector. -/
def stop (l : Lifecycle σ ρ) : Lifecycle σ ρ := { l with running := none }

/-- Stops the connector for good. -/
def destroy (l : Lifecycle σ ρ) : Lifecycle σ ρ := { l.stop with destroyed := true }

/-- What runs, if a message may be sent. -/
def admitSend (l : Lifecycle σ ρ) : Except Misuse ρ :=
  if l.sink.isNone then .error .sendWithoutSink
  else
    match l.running with
    | some round => .ok round
    | none => .error .sendStopped

/-- Changes what runs. -/
def modify (l : Lifecycle σ ρ) (f : ρ → ρ) : Lifecycle σ ρ := { l with running := l.running.map f }

@[simp] theorem isRunning_stop (l : Lifecycle σ ρ) : l.stop.isRunning = false := rfl

@[simp] theorem stop_stop (l : Lifecycle σ ρ) : l.stop.stop = l.stop := rfl

@[simp] theorem isRunning_destroy (l : Lifecycle σ ρ) : l.destroy.isRunning = false := rfl

end Lifecycle

end Framewire
