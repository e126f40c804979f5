/-
**Idle timers.**

A timer records when a connection was last active.  Given a timeout, the connection counts as idle
from the moment on when that much time has passed; every activity starts the count again.  Times
are milliseconds on one clock.

Main definitions:

* `IdleTimer` — the timer of one connection, `IdleTimer.deadline` when it expires;
* `IdleTimer.Watch` — a timer together with the time of the clock;
* `IdleTimer.Watch.wait` — a wait for expiry within a bound, the clock moving to whichever comes
  first.
-/

set_option autoImplicit false

namespace Framewire

/-- When a connection was last active, and how long it may be inactive. -/
structure IdleTimer where
  timeout : Option Nat
  lastActivity : Nat
deriving DecidableEq, Repr

namespace IdleTimer

/-- A timer that is started now. -/
def start (timeout : Option Nat) (now : Nat) : IdleTimer := ⟨timeout, now⟩

/-- Records an activity. -/
def touch (t : IdleTimer) (now : Nat) : IdleTimer := { t with lastActivity := now }

/-- The time at which the timer expires unless something happens before; a timer without a timeout
never does. -/
def deadline (t : IdleTimer) : Option Nat := t.timeout.map (t.lastActivity + ·)

/-- Whether the timer has expired by the given time. -/
def expiredBy (t : IdleTimer) (time : Nat) : Bool := t.deadline.any (· ≤ time)

@[simp] theorem timeout_touch (t : IdleTimer) (now : Nat) : (t.touch now).timeout = t.timeout := rfl

@[simp] theorem lastActivity_touch (t : IdleTimer) (now : Nat) :
    (t.touch now).lastActivity = now := rfl

/-! ### A timer beside a clock -/

/-- A timer and the time that the clock shows. -/
structure Watch where
  now : Nat
  timer : IdleTimer
deriving DecidableEq, Repr

namespace Watch

/-- A timer that is started when the clock shows zero. -/
def start (timeout : Option Nat) : Watch := ⟨0, .start timeout 0⟩

/-- Lets time pass. -/
def advance (w : Watch) (ms : Nat) : Watch := { w with now := w.now + ms }

/-- Records an activity at the time that the clock shows. -/
def touch (w : Watch) : Watch := { w with timer := w.timer.touch w.now }

/-- Waits for expiry, at most as long as given: whether it came, and the clock moved to its time or
to the end of the wait.  Expiry wins a tie, and is already there if the deadline has passed. -/
def wait (w : Watch) (within : Nat) : Bool × Watch :=
  match w.timer.deadline with
  | some deadline =>
    if deadline ≤ w.now + within then (true, { w with now := max w.now deadline })
    else (false, w.advance within)
  | none => (false, w.advance within)

end Watch

end IdleTimer

end Framewire
