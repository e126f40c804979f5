/-
**What goes in and out of a session.**

Whatever order events come in, the messages that a session hands to its sink are the frames of what
it has read, and the bytes that it gives to its connection are the payloads of its queue, one whole
payload after the other.  Neither direction has an influence on the other.  Only a write that fails
can leave a payload missing or cut short, and then it is the last one that was taken.

Main definitions:

* `Session.Inbound` — the invariant of the incoming side: no byte that was read is lost;
* `Session.offered` — the payloads that a run puts into the queue;
* `Session.BrokeOff`, `Session.Outbound` — the writing of a payload failed and ended the session;
  the invariant of the outgoing side.

Main results:

* `Session.Inbound.effect`, `Session.Outbound.effect`, `Session.taken_append_queue_run` — what an
  effect and a run keep;
* `Session.delivers_received_frames` — **the messages delivered are the frames received**, whatever
  is written in between;
* `Session.writes_queued_payloads` — **the bytes written are the payloads queued**, in order and in
  full, and what was not taken stays in the queue.
-/

import Framewire.Proofs.Framing
import Framewire.Proofs.SessionSteps

set_option autoImplicit false

namespace Framewire

open Framewire.Frame

namespace Session

variable {remote : Endpoint} {s t : Session} {event : Event}

/-! ### The incoming side -/

/-- The bytes that were read came to the messages that were delivered, the ones that are still to
be delivered, and the bytes that wait, in this order; no complete frame waits, and nothing is left
to deliver when the handler has ended well. -/
structure Inbound (remote : Endpoint) (s : Session) : Prop where
  yields : Framer.Yields (Framer.new remote) s.received (s.delivered ++ s.handler.undelivered)
    s.handler.framer
  unfinished : Unfinished s.handler.framer.buffered
  drained : ∀ reason, s.ended = some (.ok reason) → s.handler.undelivered = []

theorem inbound_start (remote : Endpoint) (idleTimeout : Option Nat) (now : Nat) :
    Inbound remote (start remote idleTimeout now) where
  yields := Framer.Yields.refl _
  unfinished := by
    rw [start, Handler.new, Framer.buffered_new]
    exact unfinished_nil
  drained := by simp [start]

theorem Inbound.effect (hs : Inbound remote s) (he : Effect s event t) : Inbound remote t := by
  cases he with
  | waited => exact ⟨hs.yields, hs.unfinished, hs.drained⟩
  | timedOut _ _ h =>
      exact ⟨hs.yields, hs.unfinished, fun _ _ => (isSelecting_iff.1 h).2⟩
  | queued => exact ⟨hs.yields, hs.unfinished, hs.drained⟩
  | detached => exact ⟨hs.yields, hs.unfinished, hs.drained⟩
  | delivered message rest h hnext =>
      refine ⟨?_, hs.unfinished, fun reason hreason => ?_⟩
      · have := hs.yields
        rwa [hnext, List.append_cons] at this
      · rw [isRunning_iff.1 h] at hreason
        exact absurd hreason (by simp)
  | received chunk h =>
      obtain ⟨hrunning, hempty⟩ := isSelecting_iff.1 h
      refine ⟨?_, s.handler.framer.unfinished_decode chunk, fun reason hreason => ?_⟩
      · -- nothing was left to deliver, so the new messages come right behind the delivered ones
        have := hs.yields.trans (s.handler.framer.yields_decode chunk)
        rwa [hempty, List.append_nil] at this
      · rw [hrunning] at hreason
        exact absurd hreason (by simp)
  | wrote => exact ⟨hs.yields, hs.unfinished, hs.drained⟩
  | brokeOff => exact ⟨hs.yields, hs.unfinished, by simp⟩
  | ended _ result _ h =>
      refine ⟨hs.yields, hs.unfinished, fun reason hreason => ?_⟩
      obtain rfl : result = .ok reason := Option.some.inj hreason
      exact h.undelivered_eq_nil
  | ignored => exact hs

theorem inbound_run (remote : Endpoint) (idleTimeout : Option Nat) (now : Nat)
    (first : Option (Bytes × WriteOutcome)) (events : List Event) :
    Inbound remote ((startWith remote idleTimeout now first).run events) := by
  rw [run_startWith]
  exact run_induction (fun _ _ _ he hs => hs.effect he) (inbound_start _ _ _) _

/-- The handler is back at the point at which it looks at everything, or it has ended well. -/
def Settled (s : Session) : Prop := s.isSelecting = true ∨ ∃ reason, s.ended = some (.ok reason)

instance (s : Session) : Decidable s.Settled :=
  decidable_of_iff (s.isSelecting = true ∨ (s.ended.bind Except.toOption).isSome = true) <| by
    rw [Settled]
    rcases s.ended with _ | _ | reason <;> simp [Except.toOption]

theorem Inbound.undelivered_eq_nil (hs : Inbound remote s) (h : s.Settled) :
    s.handler.undelivered = [] := by
  rcases h with h | ⟨reason, h⟩
  · exact (isSelecting_iff.1 h).2
  · exact hs.drained reason h

/-- Then the bytes that were read came to the delivered messages and the bytes that wait. -/
theorem Inbound.yields_delivered (hs : Inbound remote s) (h : s.Settled) :
    Framer.Yields (Framer.new remote) s.received s.delivered s.handler.framer := by
  have := hs.yields
  rwa [hs.undelivered_eq_nil h, List.append_nil] at this

theorem Inbound.framing (hs : Inbound remote s) (h : s.Settled) :
    Framing s.received (s.delivered.map Message.payload) s.handler.framer.buffered := by
  have := (hs.yields_delivered h).framing hs.unfinished
  rwa [Framer.buffered_new, List.nil_append] at this

/-- Two sessions with the same other end that have read the same bytes have delivered the same
messages and hold the same bytes back. -/
theorem Inbound.unique (hs : Inbound remote s) (ht : Inbound remote t) (h : s.Settled)
    (h' : t.Settled) (hreceived : t.received = s.received) :
    t.delivered = s.delivered ∧ t.handler.framer.buffered = s.handler.framer.buffered := by
  have hyields := ht.yields_delivered h'
  rw [hreceived] at hyields
  exact hyields.unique (hs.yields_delivered h) ht.unfinished hs.unfinished

/-- **The messages delivered are the frames received.**  Whenever the handler is back at the point
at which it looks at everything, and when it has ended well, the sink was given exactly the frames
of the bytes that were read, in order and from the other end of the connection, and as many bytes
wait as are left over.  So two runs that read the same bytes deliver the same messages, whatever
they write in between and however the bytes were cut. -/
theorem delivers_received_frames (remote : Endpoint) (idleTimeout : Option Nat) (now : Nat)
    (first : Option (Bytes × WriteOutcome)) (events : List Event)
    (h : ((startWith remote idleTimeout now first).run events).Settled) :
    let s := (startWith remote idleTimeout now first).run events
    (∃ frames rest, Framing s.received frames rest ∧
      s.delivered = frames.map (Message.mk · remote) ∧
      s.handler.framer.bufferedLength = rest.length) ∧
    ∀ (idleTimeout' : Option Nat) (now' : Nat) (first' : Option (Bytes × WriteOutcome))
      (events' : List Event),
      let t := (startWith remote idleTimeout' now' first').run events'
      t.Settled → t.received = s.received →
        t.delivered = s.delivered ∧
          t.handler.framer.bufferedLength = s.handler.framer.bufferedLength := by
  intro s
  have hs : Inbound remote s := inbound_run remote idleTimeout now first events
  refine ⟨⟨_, _, hs.framing h, ?_, s.handler.framer.bufferedLength_eq⟩, ?_⟩
  · exact (hs.yields_delivered h).messages_eq
  · intro idleTimeout' now' first' events' t h' hreceived
    have ht : Inbound remote t := inbound_run remote idleTimeout' now' first' events'
    obtain ⟨hdelivered, hbuffered⟩ := hs.unique ht h h' hreceived
    rw [Framer.bufferedLength_eq, Framer.bufferedLength_eq, hbuffered]
    exact ⟨hdelivered, rfl⟩

/-- A frame arrives in two chunks with a write between them, the second chunk brings another frame
and the beginning of a third; the same bytes arrive at once in a session that times out. -/
theorem delivers_received_frames_between_writes :
    let s := (startWith .unbound none 0 (some ([0x00, 1], .complete))).run
      [.queue [0x01, 2, 3], .read [0x20, 1], .write .complete,
        .read [0xAA, 0xBB, 0x00, 9, 0xD0], .deliver, .queue [0x00, 4], .deliver]
    let t := (startWith .unbound (some 5) 7 none).run
      [.read [0x20, 1, 0xAA, 0xBB, 0x00, 9, 0xD0], .deliver, .deliver, .pass 6]
    s.Settled ∧ t.Settled ∧ t.isRunning = false ∧ t.received = s.received ∧
      t.delivered = s.delivered ∧
      t.handler.framer.bufferedLength = s.handler.framer.bufferedLength ∧
      s.delivered = [⟨[0x20, 1, 0xAA, 0xBB], .unbound⟩, ⟨[0x00, 9], .unbound⟩] := by
  intro s t
  have hs : s.Settled := by decide +kernel
  have ht : t.Settled := by decide +kernel
  have hreceived : t.received = s.received := by decide +kernel
  obtain ⟨hdelivered, hbuffered⟩ :=
    (delivers_received_frames .unbound none 0 _ _ hs).2 (some 5) 7 none _ ht hreceived
  exact ⟨hs, ht, by decide +kernel, hreceived, hdelivered, hbuffered, by decide +kernel⟩

/-! ### The outgoing side -/

/-- The payloads that events put into the queue, in order; after `detach` nobody can. -/
def offered : List Event → List Bytes
  | [] => []
  | .queue payload :: events => payload :: offered events
  | .detach :: _ => []
  | _ :: events => offered events

theorem offered_cons_of_ne (hdetach : event ≠ .detach) (hqueue : ∀ payload, event ≠ .queue payload)
    (events : List Event) : offered (event :: events) = offered events := by
  cases event with
  | queue payload => exact absurd rfl (hqueue payload)
  | detach => exact absurd rfl hdetach
  | _ => rfl

theorem offered_initialEvents_append (first : Option (Bytes × WriteOutcome)) (events : List Event) :
    offered (initialEvents first ++ events) = (first.map Prod.fst).toList ++ offered events := by
  cases first <;> rfl

/-- What was taken and what is queued, with what the next events will offer. -/
theorem Effect.taken_append_queue (he : Effect s event t) (events : List Event) :
    t.taken ++ t.queue ++ (if t.attached then offered events else []) =
      s.taken ++ s.queue ++ (if s.attached then offered (event :: events) else []) := by
  cases he with
  | waited => rfl
  | timedOut => rfl
  | queued payload h => simp [h, offered]
  | detached => simp [offered]
  | delivered => rfl
  | received => rfl
  | wrote payload rest outcome h hnext => simp [hnext, offered]
  | brokeOff payload rest count error h hnext => simp [hnext, offered]
  | ended event result notices h => cases h <;> rfl
  | ignored event hdetach hqueue =>
      -- an event that offers a payload is ignored only when nothing is accepted any more
      by_cases hattached : s.attached = true
      · rw [offered_cons_of_ne hdetach fun payload h => ?_]
        rw [hqueue payload h] at hattached
        exact absurd hattached (by simp)
      · simp [hattached]

/-- What was taken and what is still queued is what was offered, in order. -/
theorem taken_append_queue_run (s : Session) (events : List Event) :
    (s.run events).taken ++ (s.run events).queue =
      s.taken ++ s.queue ++ (if s.attached then offered events else []) := by
  induction events generalizing s with
  | nil => simp [offered]
  | cons event events ih =>
      rw [run_cons, ih]
      exact (effect_step s event).taken_append_queue events

/-- Writing the payload that was taken last broke off, with some of its bytes written or none, and
this ended the session. -/
def BrokeOff (remote : Endpoint) (s : Session) : Prop :=
  ∃ (before : List Bytes) (payload : Bytes) (count : Nat) (error : SystemError),
    s.taken = before ++ [payload] ∧ s.written = before.flatten ++ payload.take count ∧
      s.ended = some (.error (Handler.writeFault remote (payload.length - count) error))

/-- The bytes that were written are the payloads that were taken, unless the last of them broke off;
and a session that ended because nobody could queue payloads any more has none left. -/
structure Outbound (remote : Endpoint) (s : Session) : Prop where
  remote_eq : s.handler.remote = remote
  written : s.written = s.taken.flatten ∨ s.BrokeOff remote
  closed : s.ended = some (.ok .outboundClosed) → s.queue = [] ∧ s.attached = false

theorem outbound_start (remote : Endpoint) (idleTimeout : Option Nat) (now : Nat) :
    Outbound remote (start remote idleTimeout now) where
  remote_eq := rfl
  written := .inl rfl
  closed := by simp [start]

/-- Unless an error ended the session, all that was taken was written. -/
theorem Outbound.written_eq (hs : Outbound remote s)
    (h : ∀ (left : Nat) (error : SystemError),
      s.ended ≠ some (.error (Handler.writeFault remote left error))) :
    s.written = s.taken.flatten := by
  rcases hs.written with hwritten | ⟨_, payload, count, error, _, _, hended⟩
  · exact hwritten
  · exact absurd hended (h (payload.length - count) error)

theorem Outbound.written_eq_of_isRunning (hs : Outbound remote s) (h : s.isRunning = true) :
    s.written = s.taken.flatten :=
  hs.written_eq fun _ _ => by rw [isRunning_iff.1 h]; simp

theorem Outbound.effect (hs : Outbound remote s) (he : Effect s event t) : Outbound remote t := by
  cases he with
  | waited => exact ⟨hs.remote_eq, hs.written, hs.closed⟩
  | timedOut _ _ h =>
      have hwritten := hs.written_eq_of_isRunning (isRunning_of_isSelecting h)
      exact ⟨hs.remote_eq, .inl hwritten, by simp⟩
  | queued payload h =>
      refine ⟨hs.remote_eq, hs.written, fun hclosed => ?_⟩
      rw [(hs.closed hclosed).2] at h
      exact absurd h (by simp)
  | detached => exact ⟨hs.remote_eq, hs.written, fun h => ⟨(hs.closed h).1, rfl⟩⟩
  | delivered => exact ⟨hs.remote_eq, hs.written, hs.closed⟩
  | received chunk =>
      have hremote := (s.handler.framer.yields_decode chunk).remote
      exact ⟨hremote.trans hs.remote_eq, hs.written, hs.closed⟩
  | wrote payload rest outcome h hnext =>
      obtain ⟨hended, -⟩ := isSelecting_iff.1 h
      refine ⟨hs.remote_eq, .inl ?_, by simp [hended]⟩
      simp [hs.written_eq_of_isRunning (isRunning_of_isSelecting h)]
  | brokeOff payload rest count error h hnext =>
      -- up to now all was written, so the payload that breaks off is the only one
      refine ⟨hs.remote_eq, .inr ⟨s.taken, payload, count, error, rfl, ?_, ?_⟩, by simp⟩
      · simp [hs.written_eq_of_isRunning (isRunning_of_isSelecting h)]
      · simp [hs.remote_eq]
  | ended _ result notices h =>
      refine ⟨hs.remote_eq, .inl (hs.written_eq_of_isRunning h.isRunning), fun hclosed => ?_⟩
      obtain rfl : result = .ok .outboundClosed := Option.some.inj hclosed
      cases h with
      | outboundClosed _ hqueue hattached => exact ⟨hqueue, hattached⟩
  | ignored => exact hs

theorem outbound_run (remote : Endpoint) (idleTimeout : Option Nat) (now : Nat)
    (first : Option (Bytes × WriteOutcome)) (events : List Event) :
    Outbound remote ((startWith remote idleTimeout now first).run events) := by
  rw [run_startWith]
  exact run_induction (fun _ _ _ he hs => hs.effect he) (outbound_start _ _ _) _

/-- **The bytes written are the payloads queued.**  What was taken to be written and what is still
queued are the initial payload and the ones that were queued, in order.  The bytes that were given
to the connection are the payloads that were taken, one behind the other and each in full; only when
a failed write ended the session may the last one be missing or cut short.  When the session ended
because nobody could queue payloads any more, all of them were written. -/
theorem writes_queued_payloads (remote : Endpoint) (idleTimeout : Option Nat) (now : Nat)
    (first : Option (Bytes × WriteOutcome)) (events : List Event) :
    let s := (startWith remote idleTimeout now first).run events
    let payloads := (first.map Prod.fst).toList ++ offered events
    s.taken ++ s.queue = payloads ∧
      (s.written = s.taken.flatten ∨ s.BrokeOff remote) ∧
      (s.isRunning = true → s.written = s.taken.flatten) ∧
      (∀ reason, s.ended = some (.ok reason) → s.written = s.taken.flatten) ∧
      (∀ fault, s.ended = some (.error fault) →
        (∀ left error, fault ≠ Handler.writeFault remote left error) →
          s.written = s.taken.flatten) ∧
      (s.ended = some (.ok .outboundClosed) → s.queue = [] ∧ s.written = payloads.flatten) := by
  intro s payloads
  have hs : Outbound remote s := outbound_run remote idleTimeout now first events
  have hpayloads : s.taken ++ s.queue = payloads := by
    have := taken_append_queue_run (start remote idleTimeout now) (initialEvents first ++ events)
    rw [← run_startWith, offered_initialEvents_append] at this
    exact this
  have hok : ∀ reason, s.ended = some (.ok reason) → s.written = s.taken.flatten :=
    fun reason hreason => hs.written_eq fun _ _ => by simp [hreason]
  refine ⟨hpayloads, hs.written, hs.written_eq_of_isRunning, hok, ?_, fun hclosed => ?_⟩
  · intro fault hfault hne
    exact hs.written_eq fun left error => by simpa [hfault] using hne left error
  · obtain ⟨hqueue, -⟩ := hs.closed hclosed
    rw [hqueue, List.append_nil] at hpayloads
    exact ⟨hqueue, (hok _ hclosed).trans (congrArg List.flatten hpayloads)⟩

/-- An initial payload and two queued ones until nobody can queue more; a failing read with a
payload left in the queue; and a write that breaks off in the middle. -/
theorem writes_queued_payloads_until_closed :
    let s := (startWith .unbound none 0 (some ([1, 2], .complete))).run
      [.queue [3], .write .complete, .queue [4, 5], .pass 9, .detach, .queue [6], .write .complete,
        .outboundClosed]
    let t := (startWith .unbound none 0 none).run
      [.queue [7], .write .complete, .queue [8], .readFailed .connectionReset, .write .complete]
    let u := (startWith .unbound none 0 none).run
      [.queue [1, 2, 3], .queue [4], .write (.broken 2 .brokenPipe), .write .complete]
    s.ended = some (.ok .outboundClosed) ∧ s.queue = [] ∧ s.written = [1, 2, 3, 4, 5] ∧
      t.ended = some (.error (.io .connectionReset)) ∧ t.written = t.taken.flatten ∧
      t.taken ++ t.queue = [[7], [8]] ∧ u.isRunning = false ∧ u.BrokeOff .unbound ∧
      u.taken ++ u.queue = [[1, 2, 3], [4]] := by
  intro s t u
  have hs : s.ended = some (.ok .outboundClosed) := rfl
  have ht : t.ended = some (.error (.io .connectionReset)) := rfl
  obtain ⟨-, -, -, hok, -, hclosed⟩ := writes_queued_payloads .unbound none 0
    (some ([1, 2], .complete)) [.queue [3], .write .complete, .queue [4, 5], .pass 9, .detach,
      .queue [6], .write .complete, .outboundClosed]
  obtain ⟨htpayloads, -, -, -, herror, -⟩ := writes_queued_payloads .unbound none 0 none
    [.queue [7], .write .complete, .queue [8], .readFailed .connectionReset, .write .complete]
  obtain ⟨hupayloads, hwritten, -⟩ := writes_queued_payloads .unbound none 0 none
    [.queue [1, 2, 3], .queue [4], .write (.broken 2 .brokenPipe), .write .complete]
  have hu : u.BrokeOff .unbound := hwritten.resolve_left (by decide)
  exact ⟨hs, (hclosed hs).1, hok _ hs, ht, herror _ ht (by simp [Handler.writeFault]), htpayloads,
    rfl, hu, hupayloads⟩

end Session

end Framewire
