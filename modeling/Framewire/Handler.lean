/-
**The handler of one connection.**

A handler reads from its connection, cuts what it reads into messages for the sink, and writes
payloads from an outbound queue, one at a time and each in full before the next.  It ends when the
peer closes, when the connection is idle for too long, when it is told to shut down, when nobody
can queue payloads any more, or on an error.

The handler itself reacts to stimuli: something was read, a payload was taken from the queue and
written, a time has come.  After a read it hands all complete messages to the sink before it looks
at anything else; until then they are *undelivered*.

Main definitions:

* `CloseReason`, `WriteOutcome`, `Stimulus` — why a handler ends, how a write went, what a handler
  reacts to;
* `Handler`, `Handler.react` — the handler and its reactions;
* `Session` — a handler with its outbound queue, a clock, and a record of what went in and out;
* `Session.step`, `Session.run` — what a session does with events.
-/

import Framewire.Framer
import Framewire.Idle
import Framewire.Notice

set_option autoImplicit false

namespace Framewire

/-- Why a handler ended without an error. -/
inductive CloseReason where
  /-- the peer closed its side -/
  | peerClosed
  /-- nothing was read or written for too long -/
  | idle
  /-- the handler was told to -/
  | shutdown
  /-- nobody can queue payloads any more -/
  | outboundClosed
deriving DecidableEq, Repr

/-- The name of a reason. -/
def CloseReason.name : CloseReason → String
  | peerClosed => "PeerClosed"
  | idle => "Idle"
  | shutdown => "Shutdown"
  | outboundClosed => "OutboundClosed"

/-- How writing a payload went. -/
inductive WriteOutcome where
  /-- all of it was written -/
  | complete
  /-- only so many bytes were written -/
  | broken (written : Nat) (error : SystemError)
deriving DecidableEq, Repr

/-- What a handler reacts to. -/
inductive Stimulus where
  /-- bytes were read; none means that the peer closed -/
  | read (chunk : Bytes)
  /-- reading failed -/
  | readFailed (error : SystemError)
  /-- the sink will never take a message again -/
  | refused (fault : Fault)
  /-- a payload was taken from the queue and written -/
  | payload (bytes : Bytes) (outcome : WriteOutcome)
  /-- the queue is empty and nobody can add to it -/
  | outboundClosed
  /-- the idle timer expired -/
  | expired
  /-- a shutdown signal came -/
  | signalled
deriving Repr

/-- The state of a connection between two stimuli. -/
structure Handler where
  framer : Framer
  timer : IdleTimer
  /-- the messages that were read and not yet handed to the sink, the oldest one first -/
  undelivered : List Message := []

/-- What a stimulus comes to. -/
structure Reaction where
  handler : Handler
  /-- bytes that were given to the connection -/
  written : Bytes := []
  /-- how the handler ended, if it did -/
  ended : Option (Except Fault CloseReason) := none
  notices : List Notice := []

namespace Handler

/-- How many bytes at least have to be left of a payload for them to be written past the write
buffer. -/
def bufferSize : Nat := 8192

/-- The handler of a new connection. -/
def new (remote : Endpoint) (idleTimeout : Option Nat) (now : Nat) : Handler :=
  ⟨Framer.new remote, .start idleTimeout now, []⟩

/-- The other end of the connection. -/
def remote (h : Handler) : Endpoint := h.framer.remote

/-- The fault of a payload of which so many bytes could not be written.  A few are in the buffer by
then, and it is flushing the buffer that fails; before, it is writing. -/
def writeFault (remote : Endpoint) (left : Nat) (error : SystemError) : Fault :=
  let verb := if bufferSize ≤ left then "write" else "flush"
  .detailedIo (verb ++ " to " ++ remote.text ++ " error: " ++ error.text)

/-- Writes a payload.  An empty one cannot fail. -/
def write (h : Handler) (now : Nat) (payload : Bytes) (outcome : WriteOutcome) : Reaction :=
  match outcome, payload with
  | .broken written error, _ :: _ =>
    { handler := h
      written := payload.take written
      ended := some (.error (writeFault h.remote (payload.length - written) error)) }
  | _, _ => { handler := { h with timer := h.timer.touch now }, written := payload }

/-- Takes in a chunk that is not empty. -/
def receive (h : Handler) (now : Nat) (chunk : Bytes) : Handler :=
  let (messages, framer) := h.framer.decode chunk
  ⟨framer, h.timer.touch now, messages⟩

/-- What is noted when the peer closes. -/
def closingNotices (h : Handler) : List Notice :=
  if h.framer.bufferedLength = 0 then []
  else [.unfinishedFrame h.remote h.framer.bufferedLength]

/-- What a stimulus comes to. -/
def react (h : Handler) (now : Nat) : Stimulus → Reaction
  | .read [] =>
    { handler := h, ended := some (.ok .peerClosed), notices := h.closingNotices }
  | .read (byte :: chunk) => { handler := h.receive now (byte :: chunk) }
  | .readFailed error => { handler := h, ended := some (.error (.io error)) }
  | .refused fault => { handler := h, ended := some (.error fault) }
  | .payload bytes outcome => h.write now bytes outcome
  | .outboundClosed => { handler := h, ended := some (.ok .outboundClosed) }
  | .expired => { handler := h, ended := some (.ok .idle) }
  | .signalled => { handler := h, ended := some (.ok .shutdown) }

end Handler

/-! ### A handler with its queue -/

/-- A running or ended handler with its outbound queue and a clock, and everything that went in and
out so far. -/
structure Session where
  handler : Handler
  now : Nat
  /-- payloads that the handler has not taken, the oldest one first -/
  queue : List Bytes := []
  /-- whether somebody can queue payloads -/
  attached : Bool := true
  /-- everything that was read -/
  received : Bytes := []
  /-- the messages that were handed to the sink, in order -/
  delivered : List Message := []
  /-- the payloads that were taken to be written, in order -/
  taken : List Bytes := []
  /-- everything that was given to the connection -/
  written : Bytes := []
  notices : List Notice := []
  /-- how the handler ended, if it did -/
  ended : Option (Except Fault CloseReason) := none

namespace Session

/-- What can happen to a session. -/
inductive Event where
  /-- time passes -/
  | pass (ms : Nat)
  /-- somebody queues a payload -/
  | queue (payload : Bytes)
  /-- nobody can queue payloads from now on -/
  | detach
  /-- the sink takes the next undelivered message -/
  | deliver
  /-- the sink will never take a message again -/
  | refuse (fault : Fault)
  /-- bytes are read; none means that the peer closed -/
  | read (chunk : Bytes)
  /-- reading fails -/
  | readFailed (error : SystemError)
  /-- the next payload is taken and written -/
  | write (outcome : WriteOutcome)
  /-- the handler sees that the queue is empty and nobody can add to it -/
  | outboundClosed
  /-- the handler sees that the idle timer has expired -/
  | expire
  /-- the handler sees a shutdown signal -/
  | signal
deriving Repr

/-- A session of a new connection. -/
def start (remote : Endpoint) (idleTimeout : Option Nat) (now : Nat) : Session :=
  { handler := .new remote idleTimeout now, now }

/-- The handler has not ended. -/
def isRunning (s : Session) : Bool := s.ended.isNone

/-- The handler looks at everything that may happen: it has not ended and has nothing left to hand
to the sink. -/
def isSelecting (s : Session) : Bool := s.isRunning && s.handler.undelivered.isEmpty

/-- The handler reacts. -/
def apply (s : Session) (stimulus : Stimulus) : Session :=
  let reaction := s.handler.react s.now stimulus
  { s with
    handler := reaction.handler
    written := s.written ++ reaction.written
    notices := s.notices ++ reaction.notices
    ended := reaction.ended }

/-- Writes a payload that never was in the queue, before the handler begins to run. -/
def writeFirst (s : Session) (payload : Bytes) (outcome : WriteOutcome) : Session :=
  { s with taken := s.taken ++ [payload] }.apply (.payload payload outcome)

/-- Lets time pass.  A handler that looks at everything ends when its timer expires in between. -/
def pass (s : Session) (ms : Nat) : Session :=
  match s.handler.timer.deadline with
  | some deadline =>
    if s.isSelecting ∧ deadline < s.now + ms then
      { s with now := max s.now deadline }.apply .expired
    else { s with now := s.now + ms }
  | none => { s with now := s.now + ms }

/-- What happens to a session; nothing happens to a handler that has ended or cannot see the event
now. -/
def step (s : Session) : Event → Session
  | .pass ms => if s.isRunning then s.pass ms else { s with now := s.now + ms }
  | .queue payload => if s.attached then { s with queue := s.queue ++ [payload] } else s
  | .detach => { s with attached := false }
  | .deliver =>
    match s.handler.undelivered with
    | message :: rest =>
      if s.isRunning then
        { s with
          handler := { s.handler with undelivered := rest }
          delivered := s.delivered ++ [message] }
      else s
    | [] => s
  | .refuse fault =>
    if s.isRunning ∧ s.handler.undelivered ≠ [] then s.apply (.refused fault) else s
  | .read chunk =>
    if s.isSelecting then { s with received := s.received ++ chunk }.apply (.read chunk) else s
  | .readFailed error => if s.isSelecting then s.apply (.readFailed error) else s
  | .write outcome =>
    match s.queue with
    | payload :: queue =>
      if s.isSelecting then
        { s with queue, taken := s.taken ++ [payload] }.apply (.payload payload outcome)
      else s
    | [] => s
  | .outboundClosed =>
    if s.isSelecting ∧ s.queue = [] ∧ s.attached = false then s.apply .outboundClosed else s
  | .expire =>
    if s.isSelecting ∧ s.handler.timer.expiredBy s.now then s.apply .expired else s
  | .signal => if s.isSelecting then s.apply .signalled else s

/-- What a sequence of events does to a session. -/
def run (s : Session) (events : List Event) : Session := events.foldl step s

@[simp] theorem run_nil (s : Session) : s.run [] = s := rfl

@[simp] theorem run_cons (s : Session) (event : Event) (events : List Event) :
    s.run (event :: events) = (s.step event).run events := rfl

theorem run_append (s : Session) (first later : List Event) :
    s.run (first ++ later) = (s.run first).run later := List.foldl_append

end Session

end Framewire
