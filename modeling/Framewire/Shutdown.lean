/-
**Shutdown signals.**

One sender signals any number of listeners.  Signals travel over a channel that keeps the last
few of them; a listener that has not looked for so long that signals were overwritten is told that
it lags behind, which is as good as a signal.  A listener notes that it was signalled and needs
no signal afterwards.

Main definitions:

* `Shutdown` — the sender, the channel and all listeners;
* `Shutdown.subscribe`, `Shutdown.send`, `Shutdown.dropSender` — a new listener, a signal, no more
  signals;
* `Shutdown.poll` — one look of a listener: whether it has been signalled.
-/

set_option autoImplicit false

namespace Framewire

namespace Shutdown

/-- A listener: the number of the next signal that it will look at, and whether it has noted one. -/
structure Listener where
  next : Nat
  signalled : Bool := false
deriving DecidableEq, Inhabited, Repr

/-- What the channel has for a listener. -/
inductive Reading where
  /-- a signal; the number is the next one to look at -/
  | signal (next : Nat)
  /-- signals were overwritten; the number is that of the oldest one kept -/
  | lagged (next : Nat)
  /-- no signal, and none can come -/
  | closed
  /-- no signal yet -/
  | pending
deriving DecidableEq, Repr

end Shutdown

/-- A sender, its channel and the listeners, numbered in order of subscription. -/
structure Shutdown where
  /-- how many signals the channel keeps -/
  capacity : Nat
  /-- how many signals were sent -/
  sent : Nat := 0
  /-- whether the sender is gone -/
  senderGone : Bool := false
  listeners : List Shutdown.Listener := []
deriving DecidableEq, Repr

namespace Shutdown

/-- Adds a listener, for the signals that are sent from now on. -/
def subscribe (s : Shutdown) : Shutdown :=
  { s with listeners := s.listeners ++ [⟨s.sent, false⟩] }

/-- Sends a signal, and tells how many listeners it reaches; without listeners nothing is sent. -/
def send (s : Shutdown) : Option Nat × Shutdown :=
  if s.senderGone ∨ s.listeners = [] then (none, s)
  else (some s.listeners.length, { s with sent := s.sent + 1 })

/-- Drops the sender. -/
def dropSender (s : Shutdown) : Shutdown := { s with senderGone := true }

/-- What the channel has for a listener. -/
def reading (s : Shutdown) (l : Listener) : Reading :=
  if l.next < s.sent then
    if s.capacity < s.sent - l.next then .lagged (s.sent - s.capacity) else .signal (l.next + 1)
  else if s.senderGone then .closed
  else .pending

/-- A listener after one look at the channel. -/
def look (s : Shutdown) (l : Listener) : Listener :=
  if l.signalled then l
  else
    match s.reading l with
    | .signal next => ⟨next, true⟩
    | .lagged next => ⟨next, true⟩
    | .closed => { l with signalled := true }
    | .pending => l

/-- One look of the numbered listener: whether it has been signalled, by now or before. -/
def poll (s : Shutdown) (listener : Nat) : Bool × Shutdown :=
  match s.listeners[listener]? with
  | some l => ((s.look l).signalled, { s with listeners := s.listeners.set listener (s.look l) })
  | none => (false, s)

/-- Whether the numbered listener has noted a signal. -/
def isShutdown (s : Shutdown) (listener : Nat) : Bool :=
  (s.listeners[listener]?).any (·.signalled)

end Shutdown

end Framewire
