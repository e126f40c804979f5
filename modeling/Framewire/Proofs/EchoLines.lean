/-
**One peer of an echoing server.**

What a peer sends is read by the handler of its connection, cut into messages, queued for the sink,
sent back by the sink, queued for the connection, written, and read by the peer.  All of this is the
*line* of the peer.  On a line that the server has taken in, the messages that the handler made are,
in order, those that were written, those queued for the connection, those queued for the sink, and
those not handed over; and the bytes that the handler read are the bytes of its messages and those
that wait in its framer.  Each move of the server on the line keeps this, and brings the line nearer
to its end.

Main definitions:

* `Frame.Sequence`, `Frame.Longest` — whole frames one after the other, and the longest beginning of
  a stream that consists of them;
* `Echo.Peer`, `Echo.Line` — a peer, and what a site holds of its connection;
* `Echo.Waiting`, `Echo.Served`, `Echo.Gone`, `Echo.Sound` — the stages of a line;
* `Echo.Line.effort` — how much is left to do on a line.

Main results:

* `Framing.longest`, `Frame.longest_iff` — the frames of a stream are its longest beginning of whole
  frames, and a framer finds it;
* `Echo.Waiting.accept`, `Echo.Served.chunk`, `Echo.Served.dispatch`, `Echo.Served.deliver`,
  `Echo.Served.written`, `Echo.Served.streamEnd` — **each move keeps a line sound and takes effort
  off it**;
* `Echo.Sound.send`, `Echo.Sound.receive`, `Echo.Sound.leave` — so does what the peer does;
* `Echo.Sound.isPrefix`, `Echo.Served.longest` — what a peer has read, and what it has read when
  nothing is left on its line.
-/

import Framewire.Proofs.Framing
import Framewire.Proofs.ServerMoves

set_option autoImplicit false

namespace Framewire

/-! ### The longest beginning of whole frames -/

namespace Frame

/-- The bytes are whole frames, one after the other. -/
def Sequence (bytes : Bytes) : Prop :=
  ∃ frames : List Bytes, (∀ frame ∈ frames, Whole frame) ∧ bytes = frames.flatten

/-- The longest beginning of a stream that consists of whole frames. -/
structure Longest (stream bytes : Bytes) : Prop where
  isPrefix : bytes <+: stream
  isSequence : Sequence bytes
  length_le : ∀ other, other <+: stream → Sequence other → other.length ≤ bytes.length

variable {stream bytes other : Bytes}

theorem Longest.of_isPrefix (h : Longest stream bytes) (hother : other <+: stream)
    (hsequence : Sequence other) : other <+: bytes :=
  List.prefix_of_prefix_length_le hother h.isPrefix (h.length_le other hother hsequence)

theorem Longest.unique (h : Longest stream bytes) (h' : Longest stream other) : bytes = other :=
  (h'.of_isPrefix h.isPrefix h.isSequence).eq_of_length_le
    (h.length_le other h'.isPrefix h'.isSequence)

end Frame

open Framewire.Frame

namespace Framing

variable {stream rest : Bytes} {frames : List Bytes}

theorem exists_framing (stream : Bytes) : ∃ frames rest, Framing stream frames rest := by
  have h := (Framer.new .unbound).decode_framing stream
  rw [Framer.buffered_new, List.nil_append] at h
  exact ⟨_, _, h⟩

/-- Whole frames before a stream come before its frames. -/
theorem append_left (h : Framing stream frames rest) {first : List Bytes}
    (hfirst : ∀ frame ∈ first, Whole frame) :
    Framing (first.flatten ++ stream) (first ++ frames) rest where
  whole frame hframe := by
    rcases List.mem_append.1 hframe with hframe | hframe
    · exact hfirst frame hframe
    · exact h.whole frame hframe
  unfinished := h.unfinished
  eq := by rw [h.eq, List.flatten_append, List.append_assoc]

/-- The frames of a stream are its longest beginning of whole frames. -/
theorem longest (h : Framing stream frames rest) : Longest stream frames.flatten where
  isPrefix := ⟨rest, h.eq.symm⟩
  isSequence := ⟨frames, h.whole, rfl⟩
  length_le other hother hsequence := by
    obtain ⟨first, hfirst, rfl⟩ := hsequence
    obtain ⟨tail, rfl⟩ := hother
    -- the frames of what follows go on from the other beginning
    obtain ⟨later, rest', hlater⟩ := exists_framing tail
    obtain ⟨rfl, -⟩ := h.unique (hlater.append_left hfirst)
    rw [List.flatten_append, List.length_append]
    exact Nat.le_add_right _ _

end Framing

namespace Frame

/-- A stream has a longest beginning of whole frames: it is what a framer finds. -/
theorem longest_iff {stream bytes : Bytes} :
    Longest stream bytes ↔
      bytes = (((Framer.new .unbound).decode stream).1.map Message.payload).flatten := by
  have h := ((Framer.new .unbound).decode_framing stream).longest
  rw [Framer.buffered_new, List.nil_append] at h
  constructor
  · intro hbytes
    exact hbytes.unique h
  · rintro rfl
    exact h

instance (stream bytes : Bytes) : Decidable (Longest stream bytes) :=
  decidable_of_iff _ longest_iff.symm

end Frame

namespace Echo

/-! ### Peers and lines -/

/-- A peer of a server. -/
structure Peer where
  address : Endpoint
  /-- the number of its socket -/
  socket : Nat
  /-- everything that it has written -/
  sent : Bytes := []
  /-- everything that it has read -/
  got : Bytes := []
  /-- whether it still keeps its connection -/
  isOpen : Bool := true

/-- What a site holds of the connection of one peer. -/
structure Line where
  enrolment : Option Enrolment
  /-- the current enrolment of the peer's address -/
  current : Option Nat
  attached : Option Attached
  /-- the messages from the peer's address that wait for the sink -/
  queued : List Message
  /-- the peer's socket -/
  near : Option Socket
  /-- the server's socket -/
  far : Option Socket

/-- The line of the connection of a number, with a peer at an address. -/
def line (k : Site) (number : Nat) (address : Endpoint) : Line where
  enrolment := k.registry.enrolment? number
  current := k.registry.current.get? address
  attached := k.hub.attached? number
  queued := k.hub.queue.queue.filter (·.remote = address)
  near := k.network.socket? (2 * number)
  far := k.network.socket? (2 * number + 1)

/-- A socket is open, is joined to another one, and some bytes wait to be read from it. -/
structure Joined (s : Socket) (twin : Nat) (arrived : Bytes) : Prop where
  twin : s.twin = twin
  arrived : s.arrived = arrived
  writable : s.writable = true
  isOpen : s.isOpen = true

/-- The two sockets of a connection, with what has arrived at either side.  The stream of the peer
ends when the peer has left. -/
structure Sockets (address : Endpoint) (isOpen : Bool) (number : Nat) (unread back : Bytes)
    (l : Line) : Prop where
  near : isOpen = true → ∃ s, l.near = some s ∧ Joined s (2 * number + 1) back
  far : ∃ s, l.far = some s ∧ Joined s (2 * number) unread ∧ s.there = address ∧
    s.ending = if isOpen then none else some .finished

namespace Sockets

variable {address : Endpoint} {isOpen : Bool} {number : Nat} {unread back : Bytes} {l l' : Line}

/-- What has arrived at the server changes. -/
theorem setUnread (h : Sockets address isOpen number unread back l) (f : Bytes → Bytes)
    (hnear : l'.near = l.near)
    (hfar : l'.far = l.far.map fun s => { s with arrived := f s.arrived }) :
    Sockets address isOpen number (f unread) back l' where
  near hopen := hnear ▸ h.near hopen
  far := by
    obtain ⟨s, hs, hjoined, hthere, hending⟩ := h.far
    rw [hs] at hfar
    exact ⟨_, hfar, ⟨hjoined.twin, congrArg f hjoined.arrived, hjoined.writable, hjoined.isOpen⟩,
      hthere, hending⟩

/-- What has arrived at the peer changes. -/
theorem setBack (h : Sockets address isOpen number unread back l) (f : Bytes → Bytes)
    (hnear : l'.near = l.near.map fun s => { s with arrived := f s.arrived })
    (hfar : l'.far = l.far) : Sockets address isOpen number unread (f back) l' where
  near hopen := by
    obtain ⟨s, hs, hjoined⟩ := h.near hopen
    rw [hs] at hnear
    exact ⟨_, hnear, ⟨hjoined.twin, congrArg f hjoined.arrived, hjoined.writable, hjoined.isOpen⟩⟩
  far := hfar ▸ h.far

/-- The peer leaves. -/
theorem leave (h : Sockets address true number unread back l)
    (hfar : l'.far = l.far.map fun s => { s with ending := some (s.ending.getD .finished) }) :
    Sockets address false number unread back l' where
  near hopen := by simp at hopen
  far := by
    obtain ⟨s, hs, hjoined, hthere, hending⟩ := h.far
    rw [hs] at hfar
    refine ⟨_, hfar, ⟨hjoined.twin, hjoined.arrived, hjoined.writable, hjoined.isOpen⟩, hthere, ?_⟩
    dsimp only
    rw [hending]
    rfl

end Sockets

variable {p : Peer} {number now : Nat} {l : Line}

/-- The peer has connected, and the server has not taken the connection in. -/
structure Waiting (p : Peer) (number : Nat) (l : Line) : Prop where
  enrolment : l.enrolment = none
  attached : l.attached = none
  queued : l.queued = []
  sockets : Sockets p.address p.isOpen number p.sent [] l
  got : p.got = []
  left : p.isOpen = false → Longest p.sent p.got

/-- What is under way on a line that the server has taken in. -/
structure Traffic where
  /-- what the handler has read -/
  read : Bytes
  /-- what has arrived at the server and was not read -/
  unread : Bytes
  handler : Handler
  /-- the payloads that wait for the handler -/
  outbound : List Bytes
  /-- the messages that the handler has written -/
  written : List Message
  /-- what has arrived at the peer and was not read -/
  back : Bytes

/-- The messages that a handler made, in the order in which they come back. -/
def Traffic.messages (t : Traffic) (address : Endpoint) (queued : List Message) : List Message :=
  t.written ++ t.outbound.map (Message.mk · address) ++ queued ++ t.handler.undelivered

/-- The server has taken the connection in. -/
structure Served (p : Peer) (number : Nat) (t : Traffic) (l : Line) : Prop where
  enrolment : l.enrolment = some ⟨p.address, t.outbound, true⟩
  current : l.current = some number
  attached : l.attached = some ⟨number, 2 * number + 1, t.handler⟩
  sockets : Sockets p.address p.isOpen number t.unread t.back l
  sent : t.read ++ t.unread = p.sent
  yields : Framer.Yields (Framer.new p.address) t.read (t.messages p.address l.queued)
    t.handler.framer
  unfinished : Unfinished t.handler.framer.buffered
  got : p.got ++ t.back = (t.written.map Message.payload).flatten
  left : p.isOpen = false → Longest p.sent p.got

/-- The peer has left, and the server has noticed. -/
structure Gone (p : Peer) (l : Line) : Prop where
  enrolment : l.enrolment ≠ none
  attached : l.attached = none
  queued : l.queued = []
  isOpen : p.isOpen = false
  left : Longest p.sent p.got

/-- A line is in one of its stages. -/
inductive Sound (p : Peer) (number : Nat) (l : Line) : Prop where
  | waiting (h : Waiting p number l)
  | served (t : Traffic) (h : Served p number t l)
  | gone (h : Gone p l)

/-! ### Effort -/

/-- What is left to do for payloads, each of which has some steps before it. -/
def payloadEffort (steps : Nat) : List Bytes → Nat
  | [] => 0
  | payload :: payloads => steps + payload.length + payloadEffort steps payloads

@[simp] theorem payloadEffort_nil (steps : Nat) : payloadEffort steps [] = 0 := rfl

@[simp] theorem payloadEffort_cons (steps : Nat) (payload : Bytes) (payloads : List Bytes) :
    payloadEffort steps (payload :: payloads) =
      steps + payload.length + payloadEffort steps payloads := rfl

@[simp] theorem payloadEffort_append (steps : Nat) (first later : List Bytes) :
    payloadEffort steps (first ++ later) =
      payloadEffort steps first + payloadEffort steps later := by
  induction first with
  | nil => simp
  | cons payload first ih =>
      rw [List.cons_append, payloadEffort_cons, payloadEffort_cons, ih]
      omega

/-- Payloads of at least two bytes take less effort than three for each byte. -/
theorem payloadEffort_le {payloads : List Bytes} (h : ∀ payload ∈ payloads, 2 ≤ payload.length) :
    payloadEffort 3 payloads ≤ 3 * payloads.flatten.length := by
  induction payloads with
  | nil => simp
  | cons payload payloads ih =>
      rw [List.forall_mem_cons] at h
      have := ih h.2
      rw [payloadEffort_cons, List.flatten_cons, List.length_append]
      omega

/-- What is left to do for a handler. -/
def handlerEffort (h : Handler) : Nat :=
  1 + 3 * h.framer.buffered.length + payloadEffort 3 (h.undelivered.map Message.payload)

/-- How much is left to do on a line: every byte and every message counts for more than the steps
that it will take. -/
def Line.effort (l : Line) : Nat :=
  (if l.enrolment.isNone then 2 else 0) + l.attached.elim 0 (handlerEffort ·.handler) +
    payloadEffort 2 (l.queued.map Message.payload) +
    l.enrolment.elim 0 (payloadEffort 1 ·.queue) +
    l.far.elim 0 (4 * ·.arrived.length) + l.near.elim 0 (·.arrived.length)

/-! ### Frames on a line -/

namespace Served

variable {t : Traffic}

theorem flatten_messages (h : Served p number t l) :
    p.got ++ t.back ++ t.outbound.flatten ++ (l.queued.map Message.payload).flatten ++
      (t.handler.undelivered.map Message.payload).flatten =
        ((t.messages p.address l.queued).map Message.payload).flatten := by
  have houtbound : (t.outbound.map (Message.mk · p.address)).map Message.payload = t.outbound := by
    rw [List.map_map]
    exact List.map_id _
  simp only [Traffic.messages, List.map_append, List.flatten_append, houtbound, h.got]

/-- The messages that the handler made are frames at the beginning of what was sent. -/
theorem messages_spec (h : Served p number t l) :
    ((t.messages p.address l.queued).map Message.payload).flatten <+: p.sent ∧
      Sequence ((t.messages p.address l.queued).map Message.payload).flatten := by
  constructor
  · have heq := h.yields.eq
    rw [Framer.buffered_new, List.nil_append] at heq
    refine ⟨t.handler.framer.buffered ++ t.unread, ?_⟩
    rw [← List.append_assoc, ← heq, h.sent]
  · refine ⟨_, fun frame hframe => ?_, rfl⟩
    obtain ⟨m, hm, rfl⟩ := List.mem_map.1 hframe
    exact (h.yields.whole m hm).1

/-- What a peer has read is the beginning of the frames that it sent. -/
theorem isPrefix (h : Served p number t l) {reply : Bytes} (hreply : Longest p.sent reply) :
    p.got <+: reply := by
  refine List.IsPrefix.trans ?_ (hreply.of_isPrefix h.messages_spec.1 h.messages_spec.2)
  rw [← h.flatten_messages]
  simp only [List.append_assoc]
  exact List.prefix_append _ _

theorem two_le_length (h : Served p number t l) {m : Message}
    (hm : m ∈ t.messages p.address l.queued) : 2 ≤ m.payload.length :=
  (check_bounds (h.yields.whole m hm).1).1

/-- When a peer has read the frames that it sent, nothing is under way to it. -/
theorem eq_nil_of_longest (h : Served p number t l) (hlongest : Longest p.sent p.got) :
    t.back = [] ∧ t.outbound = [] ∧ l.queued = [] ∧ t.handler.undelivered = [] := by
  have hmessages := hlongest.of_isPrefix h.messages_spec.1 h.messages_spec.2
  have hlength := hmessages.length_le
  rw [← h.flatten_messages] at hlength
  simp only [List.length_append] at hlength
  -- every message has at least two bytes, so there is none behind what was read
  have hnil : ∀ messages : List Message, (∀ m ∈ messages, m ∈ t.messages p.address l.queued) →
      (messages.map Message.payload).flatten.length = 0 → messages = [] := by
    intro messages hmem hzero
    cases messages with
    | nil => rfl
    | cons m rest =>
        have := h.two_le_length (hmem m List.mem_cons_self)
        simp only [List.map_cons, List.flatten_cons, List.length_append] at hzero
        omega
  refine ⟨List.eq_nil_of_length_eq_zero (by omega), ?_, hnil _ ?_ (by omega), hnil _ ?_ (by omega)⟩
  · refine List.map_eq_nil_iff.1 (hnil (t.outbound.map (Message.mk · p.address)) ?_ ?_)
    · intro m hm
      simp only [Traffic.messages, List.mem_append]
      exact .inl (.inl (.inr hm))
    · rw [List.map_map]
      exact (congrArg (List.length ∘ List.flatten) (List.map_id t.outbound)).trans (by
        simp only [Function.comp_apply]
        omega)
  · intro m hm
    simp only [Traffic.messages, List.mem_append]
    exact .inl (.inr hm)
  · intro m hm
    simp only [Traffic.messages, List.mem_append]
    exact .inr hm

/-- When nothing is left on a line, the peer has read the frames that it sent. -/
theorem longest (h : Served p number t l) (hunread : t.unread = []) (hback : t.back = [])
    (houtbound : t.outbound = []) (hqueued : l.queued = [])
    (hundelivered : t.handler.undelivered = []) : Longest p.sent p.got := by
  have hframing := h.yields.framing h.unfinished
  rw [Framer.buffered_new, List.nil_append] at hframing
  have hsent : t.read = p.sent := by
    rw [← h.sent, hunread, List.append_nil]
  have hgot := h.flatten_messages
  rw [hback, houtbound, hqueued, hundelivered] at hgot
  simp only [List.append_nil, List.map_nil, List.flatten_nil] at hgot
  rw [← hsent, hgot, ← hqueued]
  exact hframing.longest

end Served

theorem Sound.isPrefix (h : Sound p number l) {reply : Bytes} (hreply : Longest p.sent reply) :
    p.got <+: reply := by
  cases h with
  | waiting h => rw [h.got]; exact List.nil_prefix
  | served t h => exact h.isPrefix hreply
  | gone h => exact hreply.of_isPrefix h.left.isPrefix h.left.isSequence

/-! ### Moves of the server -/

/-- The server takes the connection in. -/
theorem Waiting.accept (h : Waiting p number l) (idleTimeout : Option Nat) :
    let l' := { l with
      enrolment := some { remote := p.address }
      current := some number
      attached := some ⟨number, 2 * number + 1, .new p.address idleTimeout now⟩ }
    Sound p number l' ∧ l'.effort < l.effort := by
  intro l'
  constructor
  · refine .served ⟨[], p.sent, .new p.address idleTimeout now, [], [], []⟩ ?_
    refine ⟨rfl, rfl, rfl, ⟨h.sockets.near, h.sockets.far⟩, rfl, ?_, ?_, ?_, h.left⟩
    · have hmessages : ∀ queued : List Message, queued = [] →
          Traffic.messages ⟨[], p.sent, .new p.address idleTimeout now, [], [], []⟩ p.address
            queued = [] := by
        rintro _ rfl
        rfl
      rw [hmessages _ h.queued]
      exact Framer.Yields.refl _
    · change Unfinished (Framer.new p.address).buffered
      rw [Framer.buffered_new]
      exact unfinished_nil
    · rw [h.got]
      rfl
  · simp only [l', Line.effort, h.enrolment, h.attached, Option.isNone_none, Option.isNone_some,
      Option.elim_none, Option.elim_some, handlerEffort, Handler.new, Framer.buffered_new]
    simp

namespace Served

variable {t : Traffic}

/-- The handler reads a chunk. -/
theorem chunk (h : Served p number t l) (hundelivered : t.handler.undelivered = []) (most : Nat)
    (hbytes : t.unread.take most ≠ []) :
    let l' := { l with
      attached := some ⟨number, 2 * number + 1, t.handler.receive now (t.unread.take most)⟩
      far := l.far.map fun s => { s with arrived := s.arrived.drop most } }
    Sound p number l' ∧ l'.effort < l.effort := by
  intro l'
  obtain ⟨s, hs, hjoined, -⟩ := h.sockets.far
  have hdecode := t.handler.framer.yields_decode (t.unread.take most)
  constructor
  · refine .served { t with
      read := t.read ++ t.unread.take most
      unread := t.unread.drop most
      handler := t.handler.receive now (t.unread.take most) } ?_
    refine ⟨h.enrolment, h.current, rfl, h.sockets.setUnread (·.drop most) rfl rfl, ?_, ?_, ?_,
      h.got, h.left⟩
    · rw [List.append_assoc, List.take_append_drop, h.sent]
    · have hyields := h.yields.trans hdecode
      rw [Traffic.messages, hundelivered, List.append_nil] at hyields
      exact hyields
    · exact t.handler.framer.unfinished_decode _
  · have hpayloads : ∀ payload ∈
        (t.handler.framer.decode (t.unread.take most)).1.map Message.payload,
        2 ≤ payload.length := by
      intro payload hpayload
      obtain ⟨m, hm, rfl⟩ := List.mem_map.1 hpayload
      exact (check_bounds (hdecode.whole m hm).1).1
    have heffort := payloadEffort_le hpayloads
    have hlength := congrArg List.length hdecode.eq
    have hpos := List.length_pos_of_ne_nil hbytes
    simp only [List.length_append, List.length_take] at hlength hpos
    simp only [l', Line.effort, h.attached, hs, Option.map_some, Option.elim_some, handlerEffort,
      Handler.receive, hundelivered, hjoined.arrived, List.length_drop, List.map_nil,
      payloadEffort_nil]
    omega

/-- The handler hands its next message to the queue of the sink. -/
theorem dispatch (h : Served p number t l) {message : Message} {rest : List Message}
    (hundelivered : t.handler.undelivered = message :: rest) :
    message.remote = p.address ∧
      let l' := { l with
        attached := some ⟨number, 2 * number + 1, { t.handler with undelivered := rest }⟩
        queued := l.queued ++ [message] }
      Sound p number l' ∧ l'.effort < l.effort := by
  refine ⟨?_, ?_, ?_⟩
  · refine (h.yields.whole message ?_).2
    rw [Traffic.messages, hundelivered]
    simp
  · refine .served { t with handler := { t.handler with undelivered := rest } } ?_
    refine ⟨h.enrolment, h.current, rfl, ⟨h.sockets.near, h.sockets.far⟩, h.sent, ?_,
      h.unfinished, h.got, h.left⟩
    have hyields := h.yields
    rw [Traffic.messages, hundelivered, ← List.singleton_append, ← List.append_assoc] at hyields
    rw [Traffic.messages, ← List.append_assoc]
    exact hyields
  · simp only [Line.effort, h.attached, Option.elim_some, handlerEffort, hundelivered,
      List.map_append, List.map_cons, List.map_nil, payloadEffort_append, payloadEffort_cons,
      payloadEffort_nil]
    omega

/-- The sink sends the next message from the peer back. -/
theorem deliver (h : Served p number t l) {message : Message} {rest : List Message}
    (hqueued : l.queued = message :: rest) :
    let l' := { l with
      enrolment := some ⟨p.address, t.outbound ++ [message.payload], true⟩
      queued := rest }
    Sound p number l' ∧ l'.effort < l.effort := by
  intro l'
  have hremote : message.remote = p.address := by
    refine (h.yields.whole message ?_).2
    rw [Traffic.messages, hqueued]
    simp
  constructor
  · refine .served { t with outbound := t.outbound ++ [message.payload] } ?_
    refine ⟨rfl, h.current, h.attached, ⟨h.sockets.near, h.sockets.far⟩, h.sent, ?_, h.unfinished,
      h.got, h.left⟩
    have hmessages : Traffic.messages { t with outbound := t.outbound ++ [message.payload] }
        p.address rest = t.messages p.address l.queued := by
      simp [Traffic.messages, hqueued, ← hremote]
    change Framer.Yields _ _ (Traffic.messages _ p.address rest) _
    rw [hmessages]
    exact h.yields
  · simp only [l', Line.effort, h.enrolment, hqueued, Option.isNone_some, Option.elim_some,
      List.map_cons, payloadEffort_append, payloadEffort_cons, payloadEffort_nil]
    omega

/-- A payload under way means that the peer has not left. -/
theorem isOpen_of_outbound (h : Served p number t l) (houtbound : t.outbound ≠ []) :
    p.isOpen = true := by
  by_contra hopen
  exact houtbound (h.eq_nil_of_longest (h.left (by simpa using hopen))).2.1

/-- The handler writes the next payload, which arrives at the peer. -/
theorem written (h : Served p number t l) {payload : Bytes} {rest : List Bytes}
    (houtbound : t.outbound = payload :: rest) :
    let l' := { l with
      enrolment := some ⟨p.address, rest, true⟩
      attached := some ⟨number, 2 * number + 1, { t.handler with
        timer := t.handler.timer.touch now }⟩
      near := l.near.map fun s => { s with arrived := s.arrived ++ payload } }
    Sound p number l' ∧ l'.effort < l.effort := by
  intro l'
  have hopen := h.isOpen_of_outbound (by simp [houtbound])
  obtain ⟨s, hs, -⟩ := h.sockets.near hopen
  constructor
  · refine .served { t with
      handler := { t.handler with timer := t.handler.timer.touch now }
      outbound := rest
      written := t.written ++ [⟨payload, p.address⟩]
      back := t.back ++ payload } ?_
    refine ⟨rfl, h.current, rfl, h.sockets.setBack (· ++ payload) rfl rfl, h.sent, ?_,
      h.unfinished, ?_, h.left⟩
    · have hyields := h.yields
      rw [Traffic.messages, houtbound, List.map_cons, ← List.singleton_append,
        ← List.append_assoc] at hyields
      exact hyields
    · rw [List.map_append, List.flatten_append, ← h.got, List.append_assoc]
      simp
  · simp only [l', Line.effort, h.enrolment, h.attached, hs, houtbound, Option.map_some,
      Option.isNone_some, Option.elim_some, handlerEffort, payloadEffort_cons, List.length_append]
    omega

/-- The handler finds the end of the stream: the peer has left. -/
theorem streamEnd (h : Served p number t l) (hopen : p.isOpen = false) {e : Enrolment}
    (he : e.queue = []) (current : Option Nat) {near far : Option Socket}
    (hnear : near.elim 0 (·.arrived.length) = l.near.elim 0 (·.arrived.length))
    (hfar : far.elim 0 (4 * ·.arrived.length) = l.far.elim 0 (4 * ·.arrived.length)) :
    let l' : Line := ⟨some e, current, none, l.queued, near, far⟩
    Sound p number l' ∧ l'.effort < l.effort := by
  intro l'
  have hleft := h.left hopen
  constructor
  · exact .gone ⟨by simp [l'], rfl, (h.eq_nil_of_longest hleft).2.2.1, hopen, hleft⟩
  · simp only [l', Line.effort, h.enrolment, h.attached, he, hnear, hfar, Option.isNone_some,
      Option.elim_some, Option.elim_none, handlerEffort, payloadEffort_nil]
    omega

end Served

/-! ### What the peer does -/

namespace Sound

/-- As long as the peer keeps its connection, both sockets are there; and when it has read the
frames that it sent, nothing has arrived behind them. -/
theorem sockets (h : Sound p number l) (hopen : p.isOpen = true) :
    ∃ unread back, Sockets p.address p.isOpen number unread back l ∧
      (Longest p.sent p.got → back = []) := by
  cases h with
  | waiting h => exact ⟨_, _, h.sockets, fun _ => rfl⟩
  | served t h => exact ⟨_, _, h.sockets, fun hlongest => (h.eq_nil_of_longest hlongest).1⟩
  | gone h => simp [h.isOpen] at hopen

/-- The peer writes a chunk, which arrives at the server. -/
theorem send (h : Sound p number l) (hopen : p.isOpen = true) (chunk : Bytes) :
    Sound { p with sent := p.sent ++ chunk } number
      { l with far := l.far.map fun s => { s with arrived := s.arrived ++ chunk } } := by
  have hleft : ∀ bytes : Bytes, p.isOpen = false → Longest bytes p.got := by
    intro bytes hclosed
    simp [hopen] at hclosed
  cases h with
  | waiting h =>
      exact .waiting ⟨h.enrolment, h.attached, h.queued,
        h.sockets.setUnread (· ++ chunk) rfl rfl, h.got, hleft _⟩
  | served t h =>
      refine .served { t with unread := t.unread ++ chunk } ⟨h.enrolment, h.current, h.attached,
        h.sockets.setUnread (· ++ chunk) rfl rfl, ?_, h.yields, h.unfinished, h.got, hleft _⟩
      rw [← List.append_assoc, h.sent]
  | gone h => simp [h.isOpen] at hopen

/-- The peer reads some of what has arrived. -/
theorem receive (h : Sound p number l) (hopen : p.isOpen = true) {s : Socket}
    (hs : l.near = some s) (count : Nat) (hbytes : s.arrived.take count ≠ []) :
    let l' := { l with near := l.near.map fun s => { s with arrived := s.arrived.drop count } }
    Sound { p with got := p.got ++ s.arrived.take count } number l' ∧ l'.effort < l.effort := by
  intro l'
  constructor
  · cases h with
    | waiting h =>
        -- nothing has arrived before the server takes the connection in
        obtain ⟨s', hs', hjoined⟩ := h.sockets.near hopen
        obtain rfl := Option.some.inj (hs.symm.trans hs')
        simp [hjoined.arrived] at hbytes
    | served t h =>
        obtain ⟨s', hs', hjoined⟩ := h.sockets.near hopen
        obtain rfl := Option.some.inj (hs.symm.trans hs')
        refine .served { t with back := t.back.drop count } ⟨h.enrolment, h.current, h.attached,
          h.sockets.setBack (·.drop count) rfl rfl, h.sent, h.yields, h.unfinished, ?_,
          fun hclosed => ?_⟩
        · rw [hjoined.arrived, List.append_assoc, List.take_append_drop, h.got]
        · simp [hopen] at hclosed
    | gone h => simp [h.isOpen] at hopen
  · have hpos := List.length_pos_of_ne_nil hbytes
    rw [List.length_take] at hpos
    simp only [l', Line.effort, hs, Option.map_some, Option.elim_some, List.length_drop]
    omega

/-- The peer leaves when it has read the frames that it sent. -/
theorem leave (h : Sound p number l) (hopen : p.isOpen = true) (hlongest : Longest p.sent p.got)
    (near : Option Socket) :
    Sound { p with isOpen := false } number
      { l with near, far := l.far.map fun s =>
        { s with ending := some (s.ending.getD .finished) } } := by
  cases h with
  | waiting h =>
      have hsockets := h.sockets
      rw [hopen] at hsockets
      exact .waiting ⟨h.enrolment, h.attached, h.queued, hsockets.leave rfl, h.got,
        fun _ => hlongest⟩
  | served t h =>
      have hsockets := h.sockets
      rw [hopen] at hsockets
      exact .served t ⟨h.enrolment, h.current, h.attached, hsockets.leave rfl, h.sent, h.yields,
        h.unfinished, h.got, fun _ => hlongest⟩
  | gone h => simp [h.isOpen] at hopen

end Sound

end Echo

end Framewire
