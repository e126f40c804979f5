/-
**One direction of a connection between two connectors.**

A payload that is sent over a connection waits to be written, its bytes arrive at the other end and
are read in pieces of any size, a framer cuts them into messages, and each message is handed over to
the queue of a sink and taken by it.  A *flow* holds all of these stages.  At any time the payloads
that were offered to a flow are, byte for byte, what was read, what has arrived, and what still
waits; and what was read is what the sink took, what is before it, and the beginning of a message.
Where nothing is under way any more, the sink has taken the payloads that were offered, because
payloads are whole frames and a stream has only one framing.

Main definitions:

* `Exchange.Flow` — the stages of one direction; `Flow.opened` — a flow on a new connection;
* `Flow.offer`, `Flow.write`, `Flow.read`, `Flow.dispatch`, `Flow.deliver` — what can happen to it;
* `Flow.Hears` — the messages are the frames of what was read of a stream;
* `Flow.Sound` — no byte is lost, and messages are whole frames;
* `Flow.AtRest`, `Flow.effort` — nothing is under way; how much is left to do;
* `Handles` — a handler reads a flow.

Main results:

* `Flow.Hears.exists_framing`, `Flow.Hears.taken_eq` — the sink takes the frames of the stream, in
  order;
* `Flow.Sound.offer`, `Flow.Sound.write`, `Flow.Sound.read`, `Flow.Sound.dispatch`,
  `Flow.Sound.deliver` — **whatever happens, a flow stays sound**;
* `Flow.effort_write_lt`, `Flow.effort_read_lt`, `Flow.effort_dispatch_lt`,
  `Flow.effort_deliver_lt` — each step but an offer takes effort off it;
* `Flow.Sound.taken_eq` — **when nothing is under way, the sink has taken what was offered**.
-/

import Framewire.Handler
import Framewire.Proofs.Framing

set_option autoImplicit false

namespace Framewire

open Framewire.Frame

namespace Exchange

/-- One direction of a connection between two connectors. -/
structure Flow where
  /-- all payloads that were queued to be written, in order -/
  offered : List Bytes := []
  /-- those of them that were not written -/
  waiting : List Bytes := []
  /-- the bytes that have arrived and were not read -/
  arrived : Bytes := []
  framer : Framer
  /-- the messages that the handler has not handed over -/
  undelivered : List Message := []
  /-- the messages that wait for the sink -/
  queued : List Message := []
  /-- the messages that the sink took, in order -/
  taken : List Message := []

namespace Flow

/-- The flow of a new connection from a remote end, with payloads that were queued before. -/
def opened (remote : Endpoint) (payloads : List Bytes) : Flow where
  offered := payloads
  waiting := payloads
  framer := Framer.new remote

/-- All messages that were made of what was read, in order. -/
def messages (f : Flow) : List Message := f.taken ++ f.queued ++ f.undelivered

/-- A payload is queued to be written. -/
def offer (f : Flow) (payload : Bytes) : Flow :=
  { f with offered := f.offered ++ [payload], waiting := f.waiting ++ [payload] }

/-- The first payload is written, and others are left. -/
def write (f : Flow) (payload : Bytes) (rest : List Bytes) : Flow :=
  { f with waiting := rest, arrived := f.arrived ++ payload }

/-- At most so many bytes are read. -/
def read (f : Flow) (most : Nat) : Flow :=
  { f with
    arrived := f.arrived.drop most
    framer := (f.framer.decode (f.arrived.take most)).2
    undelivered := (f.framer.decode (f.arrived.take most)).1 }

/-- The first undelivered message is handed over, and others are left. -/
def dispatch (f : Flow) (message : Message) (rest : List Message) : Flow :=
  { f with undelivered := rest, queued := f.queued ++ [message] }

/-- The sink takes the first message, and others are left. -/
def deliver (f : Flow) (message : Message) (rest : List Message) : Flow :=
  { f with queued := rest, taken := f.taken ++ [message] }

/-- What has come of a stream is what was read, of which the messages are the whole frames, and what
was not. -/
structure Hears (remote : Endpoint) (stream : Bytes) (f : Flow) : Prop where
  yields : ∃ consumed, stream = consumed ++ f.arrived ∧
    Framer.Yields (Framer.new remote) consumed f.messages f.framer
  unfinished : Unfinished f.framer.buffered

/-- No byte of what was offered is lost, and the messages are whole frames from the remote end. -/
structure Sound (remote : Endpoint) (f : Flow) : Prop where
  whole : ∀ payload ∈ f.offered, Whole payload
  hears : ∃ stream, f.offered.flatten = stream ++ f.waiting.flatten ∧ f.Hears remote stream

/-- Nothing is under way. -/
structure AtRest (f : Flow) : Prop where
  waiting : f.waiting = []
  arrived : f.arrived = []
  undelivered : f.undelivered = []
  queued : f.queued = []

/-- How much is left to do: every byte and every message counts for more than the steps that it will
take. -/
def effort (f : Flow) : Nat :=
  f.waiting.length + 4 * (f.waiting.flatten.length + f.arrived.length) +
    3 * f.framer.buffered.length + 2 * f.undelivered.length + f.queued.length

variable {remote : Endpoint} {f : Flow} {payload stream : Bytes} {payloads : List Bytes} {most : Nat}
  {message : Message} {rest : List Message} {left : List Bytes}

theorem hears_opened (remote : Endpoint) (payloads : List Bytes) :
    (opened remote payloads).Hears remote [] where
  yields := ⟨[], rfl, Framer.Yields.refl _⟩
  unfinished := by
    change Unfinished (Framer.new remote).buffered
    rw [Framer.buffered_new]
    exact unfinished_nil

theorem sound_opened (h : ∀ payload ∈ payloads, Whole payload) :
    Sound remote (opened remote payloads) where
  whole := h
  hears := ⟨[], rfl, hears_opened remote payloads⟩

namespace Hears

theorem remote_eq (h : f.Hears remote stream) (hm : message ∈ f.messages) :
    message.remote = remote := by
  obtain ⟨_, -, hyields⟩ := h.yields
  exact (hyields.whole message hm).2

/-- More of the stream arrives. -/
theorem arrive (h : f.Hears remote stream) (chunk : Bytes) :
    { f with arrived := f.arrived ++ chunk }.Hears remote (stream ++ chunk) where
  yields := by
    obtain ⟨consumed, rfl, hyields⟩ := h.yields
    exact ⟨consumed, List.append_assoc .., hyields⟩
  unfinished := h.unfinished

theorem read (h : f.Hears remote stream) (hundelivered : f.undelivered = []) (most : Nat) :
    (f.read most).Hears remote stream where
  yields := by
    obtain ⟨consumed, heq, hyields⟩ := h.yields
    refine ⟨consumed ++ f.arrived.take most, ?_, ?_⟩
    · rw [Flow.read, heq, List.append_assoc consumed (f.arrived.take most), List.take_append_drop]
    · have hmore := hyields.trans (f.framer.yields_decode (f.arrived.take most))
      rw [messages, hundelivered, List.append_nil] at hmore
      exact hmore
  unfinished := f.framer.unfinished_decode _

theorem dispatch (h : f.Hears remote stream) (hundelivered : f.undelivered = message :: rest) :
    (f.dispatch message rest).Hears remote stream where
  yields := by
    have hmessages : (f.dispatch message rest).messages = f.messages := by
      simp only [messages, Flow.dispatch, hundelivered, List.append_assoc, List.singleton_append]
    rw [hmessages]
    exact h.yields
  unfinished := h.unfinished

theorem deliver (h : f.Hears remote stream) (hqueued : f.queued = message :: rest) :
    (f.deliver message rest).Hears remote stream where
  yields := by
    have hmessages : (f.deliver message rest).messages = f.messages := by
      simp only [messages, Flow.deliver, hqueued, List.append_assoc, List.singleton_append]
    rw [hmessages]
    exact h.yields
  unfinished := h.unfinished

/-- **The messages are frames of the stream**, and there are others only in what was not read. -/
theorem exists_framing (h : f.Hears remote stream) :
    ∃ frames rest, Framing stream frames rest ∧ f.messages <+: frames.map (Message.mk · remote) ∧
      (f.arrived = [] → f.messages = frames.map (Message.mk · remote)) := by
  obtain ⟨consumed, rfl, hyields⟩ := h.yields
  -- what was not read is read at once
  have hall := hyields.trans (f.framer.yields_decode f.arrived)
  have hframing := hall.framing (f.framer.unfinished_decode f.arrived)
  rw [Framer.buffered_new, List.nil_append] at hframing
  refine ⟨_, _, hframing, ?_, fun harrived => ?_⟩
  · exact hall.messages_eq ▸ List.prefix_append ..
  · have hframing' := hyields.framing h.unfinished
    rw [Framer.buffered_new, List.nil_append] at hframing'
    rw [harrived, List.append_nil] at hframing
    rw [harrived, (hframing.unique hframing').1]
    exact hyields.messages_eq

/-- **When nothing is under way, the sink has taken the frames of the stream.** -/
theorem taken_eq (h : f.Hears remote stream) (harrived : f.arrived = [])
    (hundelivered : f.undelivered = []) (hqueued : f.queued = []) {frames : List Bytes}
    {left : Bytes} (hframing : Framing stream frames left) :
    f.taken = frames.map (Message.mk · remote) := by
  obtain ⟨frames', left', hframing', -, hmessages⟩ := h.exists_framing
  have heq := hmessages harrived
  rw [messages, hqueued, hundelivered, List.append_nil, List.append_nil] at heq
  rw [heq, (hframing'.unique hframing).1]

end Hears

namespace Sound

theorem remote_eq (h : f.Sound remote) (hm : message ∈ f.messages) : message.remote = remote := by
  obtain ⟨_, -, hears⟩ := h.hears
  exact hears.remote_eq hm

theorem offer (h : f.Sound remote) (hpayload : Whole payload) : (f.offer payload).Sound remote where
  whole other hother := by
    rcases List.mem_append.1 hother with hother | hother
    · exact h.whole other hother
    · exact List.mem_singleton.1 hother ▸ hpayload
  hears := by
    obtain ⟨stream, heq, hears⟩ := h.hears
    refine ⟨stream, ?_, hears.yields, hears.unfinished⟩
    simp only [Flow.offer, List.flatten_append, heq, List.append_assoc]

theorem write (h : f.Sound remote) (hwaiting : f.waiting = payload :: left) :
    (f.write payload left).Sound remote where
  whole := h.whole
  hears := by
    obtain ⟨stream, heq, hears⟩ := h.hears
    refine ⟨stream ++ payload, ?_, (hears.arrive payload).yields, hears.unfinished⟩
    simp only [Flow.write, heq, hwaiting, List.flatten_cons, List.append_assoc]

theorem read (h : f.Sound remote) (hundelivered : f.undelivered = []) (most : Nat) :
    (f.read most).Sound remote where
  whole := h.whole
  hears := by
    obtain ⟨stream, heq, hears⟩ := h.hears
    exact ⟨stream, heq, hears.read hundelivered most⟩

theorem dispatch (h : f.Sound remote) (hundelivered : f.undelivered = message :: rest) :
    (f.dispatch message rest).Sound remote where
  whole := h.whole
  hears := by
    obtain ⟨stream, heq, hears⟩ := h.hears
    exact ⟨stream, heq, hears.dispatch hundelivered⟩

theorem deliver (h : f.Sound remote) (hqueued : f.queued = message :: rest) :
    (f.deliver message rest).Sound remote where
  whole := h.whole
  hears := by
    obtain ⟨stream, heq, hears⟩ := h.hears
    exact ⟨stream, heq, hears.deliver hqueued⟩

/-- **When nothing is under way, the sink has taken what was offered.** -/
theorem taken_eq (h : f.Sound remote) (hrest : f.AtRest) :
    f.taken = f.offered.map (Message.mk · remote) := by
  obtain ⟨stream, heq, hears⟩ := h.hears
  rw [hrest.waiting, List.flatten_nil, List.append_nil] at heq
  -- the offered payloads are a framing of the stream
  exact hears.taken_eq hrest.arrived hrest.undelivered hrest.queued
    ⟨h.whole, unfinished_nil, heq ▸ (List.append_nil _).symm⟩

end Sound

/-! ### Effort -/

theorem effort_opened (remote : Endpoint) (payloads : List Bytes) :
    (opened remote payloads).effort = payloads.length + 4 * payloads.flatten.length := by
  simp [effort, opened, Framer.buffered_new]

theorem effort_write_lt (hwaiting : f.waiting = payload :: left) :
    (f.write payload left).effort < f.effort := by
  simp only [effort, write, hwaiting, List.length_cons, List.flatten_cons, List.length_append]
  omega

theorem effort_dispatch_lt (hundelivered : f.undelivered = message :: rest) :
    (f.dispatch message rest).effort < f.effort := by
  simp only [effort, dispatch, hundelivered, List.length_cons, List.length_append, List.length_nil]
  omega

theorem effort_deliver_lt (hqueued : f.queued = message :: rest) :
    (f.deliver message rest).effort < f.effort := by
  simp only [effort, deliver, hqueued, List.length_cons]
  omega

/-- Messages that are whole frames have at least two bytes each. -/
theorem two_mul_length_le {messages : List Message} (h : ∀ m ∈ messages, Whole m.payload) :
    2 * messages.length ≤ (messages.map Message.payload).flatten.length := by
  induction messages with
  | nil => exact Nat.le_refl _
  | cons m messages ih =>
      rw [List.forall_mem_cons] at h
      have hm := (check_bounds h.1).1
      have hmessages := ih h.2
      rw [List.map_cons, List.flatten_cons, List.length_append, List.length_cons]
      omega

theorem effort_read_lt (hundelivered : f.undelivered = []) (hbytes : f.arrived.take most ≠ []) :
    (f.read most).effort < f.effort := by
  have hdecode := f.framer.yields_decode (f.arrived.take most)
  have hlength := congrArg List.length hdecode.eq
  have hmessages := two_mul_length_le fun m hm => (hdecode.whole m hm).1
  have hpos := List.length_pos_iff.2 hbytes
  simp only [List.length_append, List.length_take] at hlength hpos
  simp only [effort, read, hundelivered, List.length_drop, List.length_nil]
  omega

theorem arrived_eq_nil (hread : f.arrived.take 1 = []) : f.arrived = [] := by
  cases harrived : f.arrived with
  | nil => rfl
  | cons byte rest => simp [harrived] at hread

end Flow

/-! ### Handlers that read -/

/-- A handler is where the reader of a flow is. -/
structure Handles (f : Flow) (handler : Handler) : Prop where
  framer : handler.framer = f.framer
  undelivered : handler.undelivered = f.undelivered

theorem Handles.receive {f : Flow} {handler : Handler} (hh : Handles f handler) (now most : Nat) :
    Handles (f.read most) (handler.receive now (f.arrived.take most)) := by
  rw [Handler.receive, hh.framer]
  exact ⟨rfl, rfl⟩

end Exchange

end Framewire
