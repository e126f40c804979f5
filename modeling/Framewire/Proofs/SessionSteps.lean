/-
**What can happen to a session.**

Each event does one of a few things to a session: time passes, a payload is queued, a message is
delivered, a chunk is received, a payload is written or breaks off, or the handler ends.  The
effects are listed once, each with the condition under which the event has it and with everything
that it changes; what a whole run of events keeps is then shown effect by effect.

Main definitions:

* `Session.Ends` — the ways in which a handler ends without writing;
* `Session.Effect` — what an event does to a session;
* `Session.startWith` — a session of a new connection, after its initial write if there is one.

Main results:

* `Session.effect_step` — **every event has one of the effects**;
* `Session.run_induction` — what every effect keeps, every run keeps.
-/

import Framewire.Handler

set_option autoImplicit false

namespace Framewire

/-- A payload is written in full, or it is not empty and breaks off. -/
theorem Handler.write_cases (h : Handler) (now : Nat) (payload : Bytes) (outcome : WriteOutcome) :
    h.write now payload outcome =
        { handler := { h with timer := h.timer.touch now }, written := payload } ∨
      ∃ count error, outcome = .broken count error ∧ payload ≠ [] ∧
        h.write now payload outcome =
          { handler := h
            written := payload.take count
            ended := some (.error (Handler.writeFault h.remote (payload.length - count) error)) } := by
  cases outcome with
  | complete => exact .inl rfl
  | broken count error =>
      cases payload with
      | nil => exact .inl rfl
      | cons byte payload => exact .inr ⟨count, error, rfl, by simp, rfl⟩

namespace Session

variable {s : Session}

/-! ### Running and selecting -/

theorem isRunning_iff : s.isRunning = true ↔ s.ended = none := by
  rw [isRunning, Option.isNone_iff_eq_none]

theorem isSelecting_iff :
    s.isSelecting = true ↔ s.ended = none ∧ s.handler.undelivered = [] := by
  rw [isSelecting, Bool.and_eq_true, isRunning_iff, List.isEmpty_iff]

theorem isRunning_of_isSelecting (h : s.isSelecting = true) : s.isRunning = true :=
  isRunning_iff.2 (isSelecting_iff.1 h).1

/-! ### Effects -/

/-- How an event ends a handler without a payload being written.  Only a sink that refuses ends a
handler that has messages left to deliver. -/
inductive Ends (s : Session) : Event → Except Fault CloseReason → Prop where
  | peerClosed (h : s.isSelecting = true) : Ends s (.read []) (.ok .peerClosed)
  | readFailed (error : SystemError) (h : s.isSelecting = true) :
      Ends s (.readFailed error) (.error (.io error))
  | refused (fault : Fault) (h : s.isRunning = true) : Ends s (.refuse fault) (.error fault)
  | outboundClosed (h : s.isSelecting = true) (hqueue : s.queue = [])
      (hattached : s.attached = false) : Ends s .outboundClosed (.ok .outboundClosed)
  | expired (h : s.isSelecting = true) (htimer : s.handler.timer.expiredBy s.now = true) :
      Ends s .expire (.ok .idle)
  | signalled (h : s.isSelecting = true) : Ends s .signal (.ok .shutdown)

/-- What an event does to a session. -/
inductive Effect (s : Session) : Event → Session → Prop where
  /-- time passes, and the handler does not time out -/
  | waited (ms : Nat) : Effect s (.pass ms) { s with now := s.now + ms }
  /-- the handler times out while time passes -/
  | timedOut (ms deadline : Nat) (h : s.isSelecting = true)
      (hdeadline : s.handler.timer.deadline = some deadline) (hlt : deadline < s.now + ms) :
      Effect s (.pass ms) { s with now := max s.now deadline, ended := some (.ok .idle) }
  /-- a payload goes to the end of the queue -/
  | queued (payload : Bytes) (h : s.attached = true) :
      Effect s (.queue payload) { s with queue := s.queue ++ [payload] }
  /-- nobody can queue payloads from now on -/
  | detached : Effect s .detach { s with attached := false }
  /-- the sink takes the next message -/
  | delivered (message : Message) (rest : List Message) (h : s.isRunning = true)
      (hnext : s.handler.undelivered = message :: rest) :
      Effect s .deliver
        { s with
          handler := { s.handler with undelivered := rest }
          delivered := s.delivered ++ [message] }
  /-- bytes are read and cut into messages -/
  | received (chunk : Bytes) (h : s.isSelecting = true) :
      Effect s (.read chunk)
        { s with
          handler := s.handler.receive s.now chunk
          received := s.received ++ chunk }
  /-- the next payload is written in full -/
  | wrote (payload : Bytes) (rest : List Bytes) (outcome : WriteOutcome)
      (h : s.isSelecting = true) (hnext : s.queue = payload :: rest) :
      Effect s (.write outcome)
        { s with
          handler := { s.handler with timer := s.handler.timer.touch s.now }
          queue := rest
          taken := s.taken ++ [payload]
          written := s.written ++ payload }
  /-- the next payload breaks off, and the handler ends -/
  | brokeOff (payload : Bytes) (rest : List Bytes) (count : Nat) (error : SystemError)
      (h : s.isSelecting = true) (hnext : s.queue = payload :: rest) (hne : payload ≠ []) :
      Effect s (.write (.broken count error))
        { s with
          queue := rest
          taken := s.taken ++ [payload]
          written := s.written ++ payload.take count
          ended := some (.error
            (Handler.writeFault s.handler.remote (payload.length - count) error)) }
  /-- the handler ends without a payload being written -/
  | ended (event : Event) (result : Except Fault CloseReason) (notices : List Notice)
      (h : Ends s event result) :
      Effect s event { s with notices := s.notices ++ notices, ended := some result }
  /-- the handler cannot see the event now, or the payload comes too late -/
  | ignored (event : Event) (hdetach : event ≠ .detach)
      (hqueue : ∀ payload, event = .queue payload → s.attached = false) : Effect s event s

variable {event : Event}

/-- Only a running handler ends. -/
theorem Ends.isRunning {result : Except Fault CloseReason} (h : Ends s event result) :
    s.isRunning = true := by
  cases h with
  | refused _ h => exact h
  | peerClosed h => exact isRunning_of_isSelecting h
  | readFailed _ h => exact isRunning_of_isSelecting h
  | outboundClosed h => exact isRunning_of_isSelecting h
  | expired h => exact isRunning_of_isSelecting h
  | signalled h => exact isRunning_of_isSelecting h

/-- A handler ends well only when nothing is left to deliver. -/
theorem Ends.undelivered_eq_nil {reason : CloseReason} (h : Ends s event (.ok reason)) :
    s.handler.undelivered = [] := by
  cases h with
  | peerClosed h => exact (isSelecting_iff.1 h).2
  | outboundClosed h => exact (isSelecting_iff.1 h).2
  | expired h => exact (isSelecting_iff.1 h).2
  | signalled h => exact (isSelecting_iff.1 h).2

/-- A reaction that only ends the handler has the effect of ending it. -/
theorem Ends.effect {result : Except Fault CloseReason} {stimulus : Stimulus}
    {notices : List Notice} (h : Ends s event result)
    (hreact : s.handler.react s.now stimulus =
      { handler := s.handler, ended := some result, notices }) :
    Effect s event (s.apply stimulus) := by
  have := Effect.ended event result notices h
  simpa [apply, hreact] using this

theorem effect_pass (ms : Nat) : Effect s (.pass ms) (s.step (.pass ms)) := by
  simp only [step, pass]
  split
  · split
    · split
      · next deadline hdeadline h =>
        have := Effect.timedOut ms deadline h.1 hdeadline h.2
        simpa [apply, Handler.react] using this
      · exact .waited ms
    · exact .waited ms
  · exact .waited ms

theorem effect_deliver : Effect s .deliver (s.step .deliver) := by
  simp only [step]
  split
  · next message rest hnext =>
    split
    · next h => exact .delivered message rest h hnext
    · exact .ignored _ (by simp) (by simp)
  · exact .ignored _ (by simp) (by simp)

theorem effect_read (chunk : Bytes) : Effect s (.read chunk) (s.step (.read chunk)) := by
  simp only [step]
  split
  · next h =>
    cases chunk with
    | nil =>
        -- an empty read is the end of the stream
        rw [List.append_nil]
        exact (Ends.peerClosed h).effect rfl
    | cons byte chunk =>
        have := Effect.received (byte :: chunk) h
        simpa [apply, Handler.react, (isSelecting_iff.1 h).1] using this
  · exact .ignored _ (by simp) (by simp)

theorem effect_write (outcome : WriteOutcome) :
    Effect s (.write outcome) (s.step (.write outcome)) := by
  simp only [step]
  split
  · next payload rest hnext =>
    split
    · next hselecting =>
      rcases s.handler.write_cases s.now payload outcome with h | ⟨count, error, rfl, hne, h⟩
      · have := Effect.wrote payload rest outcome hselecting hnext
        simpa [apply, Handler.react, h, (isSelecting_iff.1 hselecting).1] using this
      · have := Effect.brokeOff payload rest count error hselecting hnext hne
        simpa [apply, Handler.react, h] using this
    · exact .ignored _ (by simp) (by simp)
  · exact .ignored _ (by simp) (by simp)

/-- **Every event has one of the effects.** -/
theorem effect_step (s : Session) (event : Event) : Effect s event (s.step event) := by
  cases event with
  | pass ms => exact effect_pass ms
  | queue payload =>
      simp only [step]
      split
      · next h => exact .queued payload h
      · next h => exact .ignored _ (by simp) fun _ _ => by simpa using h
  | detach => exact .detached
  | deliver => exact effect_deliver
  | refuse fault =>
      simp only [step]
      split
      · next h => exact (Ends.refused fault h.1).effect rfl
      · exact .ignored _ (by simp) (by simp)
  | read chunk => exact effect_read chunk
  | readFailed error =>
      simp only [step]
      split
      · next h => exact (Ends.readFailed error h).effect rfl
      · exact .ignored _ (by simp) (by simp)
  | write outcome => exact effect_write outcome
  | outboundClosed =>
      simp only [step]
      split
      · next h => exact (Ends.outboundClosed h.1 h.2.1 h.2.2).effect rfl
      · exact .ignored _ (by simp) (by simp)
  | expire =>
      simp only [step]
      split
      · next h => exact (Ends.expired h.1 h.2).effect rfl
      · exact .ignored _ (by simp) (by simp)
  | signal =>
      simp only [step]
      split
      · next h => exact (Ends.signalled h).effect rfl
      · exact .ignored _ (by simp) (by simp)

/-- What every effect keeps, a run keeps. -/
theorem run_induction {motive : Session → Prop}
    (keeps : ∀ s event s', Effect s event s' → motive s → motive s') (hs : motive s)
    (events : List Event) : motive (s.run events) := by
  induction events generalizing s with
  | nil => exact hs
  | cons event events ih => exact ih (keeps _ _ _ (effect_step s event) hs)

/-! ### The initial write -/

/-- A session of a new connection, after its initial write if there is one. -/
def startWith (remote : Endpoint) (idleTimeout : Option Nat) (now : Nat) :
    Option (Bytes × WriteOutcome) → Session
  | none => start remote idleTimeout now
  | some (payload, outcome) => (start remote idleTimeout now).writeFirst payload outcome

/-- The events that an initial write amounts to: the payload is queued, and written at once. -/
def initialEvents : Option (Bytes × WriteOutcome) → List Event
  | none => []
  | some (payload, outcome) => [.queue payload, .write outcome]

theorem startWith_eq_run (remote : Endpoint) (idleTimeout : Option Nat) (now : Nat)
    (first : Option (Bytes × WriteOutcome)) :
    startWith remote idleTimeout now first =
      (start remote idleTimeout now).run (initialEvents first) := by
  cases first <;> rfl

/-- An initial write is a run like any other, so what follows it is as well. -/
theorem run_startWith (remote : Endpoint) (idleTimeout : Option Nat) (now : Nat)
    (first : Option (Bytes × WriteOutcome)) (events : List Event) :
    (startWith remote idleTimeout now first).run events =
      (start remote idleTimeout now).run (initialEvents first ++ events) := by
  rw [startWith_eq_run, run_append]

end Session

end Framewire
