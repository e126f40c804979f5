/-
**What is logged.**

A notice is an event worth a line in the log.  Its level and its text are functions of the event,
so that a run can be described by its notices without mentioning text.

Main definitions:

* `Panic` — what a sink that panics leaves behind;
* `Notice` — the events, `Notice.level` and `Notice.text` their level and text;
* `Notice.line` — the line of a notice.
-/

import Framewire.Fault
import Framewire.Message

set_option autoImplicit false

namespace Framewire

/-- What a sink that panics leaves behind: words, or a value that is no text. -/
inductive Panic where
  | words (text : String)
  | wordless
deriving DecidableEq, Repr

/-- What is told about a panic. -/
def Panic.text : Panic → String
  | words text => text
  | wordless => "unknown panic payload"

namespace Notice

/-- How much a notice matters. -/
inductive Level where
  | error
  | warn
  | debug
deriving DecidableEq, Repr

/-- The name of a level. -/
def Level.text : Level → String
  | error => "ERROR"
  | warn => "WARN"
  | debug => "DEBUG"

/-- Whether a level is at least that of a warning. -/
def Level.isWarning : Level → Bool
  | error => true
  | warn => true
  | debug => false

end Notice

/-- An event worth a line in the log. -/
inductive Notice where
  /-- a connection was entered into the registry under a number -/
  | registered (id : Nat) (remote : Endpoint)
  /-- a connection left the registry -/
  | deregistered (id : Nat) (remote : Endpoint)
  /-- a server has no connection to the destination of a message -/
  | noConnection (remote : Endpoint)
  /-- a client's pool is closed to a payload of the given size -/
  | dropped (size : Nat) (remote : Endpoint)
  /-- a client cannot connect -/
  | cannotConnect (remote : Endpoint) (fault : Fault)
  /-- a client's connection failed -/
  | outgoingFailed (remote : Endpoint) (fault : Fault)
  /-- a server's connection failed -/
  | incomingFailed (remote : Endpoint) (fault : Fault)
  /-- a server cannot listen -/
  | bindFailed (text : String)
  /-- a sink panicked on a message -/
  | sinkPanicked (remote : Endpoint) (panic : Panic)
  /-- the peer closed with an incomplete frame of the given size in the buffer -/
  | unfinishedFrame (remote : Endpoint) (size : Nat)
  /-- a connection is given up -/
  | handlerDropped (remote : Endpoint)
deriving DecidableEq, Repr

namespace Notice

/-- The level of a notice. -/
def level : Notice → Level
  | registered .. => .debug
  | deregistered .. => .debug
  | noConnection .. => .warn
  | dropped .. => .warn
  | cannotConnect .. => .warn
  | outgoingFailed .. => .warn
  | incomingFailed .. => .warn
  | bindFailed .. => .error
  | sinkPanicked .. => .error
  | unfinishedFrame .. => .debug
  | handlerDropped .. => .debug

/-- The text of a notice. -/
def text : Notice → String
  | registered id remote => "registered connection " ++ toString id ++ " from " ++ remote.text
  | deregistered id remote => "deregistered connection " ++ toString id ++ " from " ++ remote.text
  | noConnection remote =>
    "Attempting to send message to an address without an active connection " ++ remote.text
  | dropped size remote =>
    "dropping " ++ toString size ++ " bytes for " ++ remote.text
      ++ ", no connection slot available"
  | cannotConnect remote fault =>
    "unable to open connection to " ++ remote.text ++ ": " ++ fault.message
  | outgoingFailed remote fault =>
    "connection to " ++ remote.text ++ " failed: " ++ fault.message
  | incomingFailed remote fault =>
    "connection from " ++ remote.text ++ " error: " ++ fault.message
  | bindFailed text => text
  | sinkPanicked remote panic =>
    "message sink panicked on message from " ++ remote.text ++ ": " ++ panic.text
  | unfinishedFrame remote size =>
    "peer " ++ remote.text ++ " closed with " ++ toString size ++ " bytes of an unfinished frame"
  | handlerDropped remote => "connection handler for " ++ remote.text ++ " dropped"

/-- Whether a notice is a warning or worse. -/
def isWarning (n : Notice) : Bool := n.level.isWarning

/-- The line of a notice. -/
def line (n : Notice) : String := n.level.text ++ " " ++ n.text

end Notice

end Framewire
