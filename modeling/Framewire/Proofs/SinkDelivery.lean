/-
**The sink gets every message once, in order.**

Dispatchers put messages into a bounded queue, and the delivery gives them to the sink one after the
other, while dispatchers are copied and go.  Whose turn it is, and how often, is a matter of the
schedule.  At any time the messages that were dispatched are those that were given to the sink, and
behind them those that wait; whether the sink panics on a message changes only what is noted.  So when
the delivery has ended, what the sink got, what it took and what was noted are functions of the
messages alone: neither the capacity of the queue nor the schedule has an influence.

A sink may panic on one message and take an equal one later.  The runs here let the sink treat each
message in its own way, by its number.

Main definitions:

* `SinkQueue.Work.runWith` — a schedule, where the sink may be another one for each message;
* `SinkQueue.calm`, `SinkQueue.panics` — the messages on which a sink does not panic, and what is
  noted about the others;
* `SinkQueue.Work.Sound` — what holds at any time.

Main results:

* `SinkQueue.Work.Sound.step`, `SinkQueue.Work.Sound.runWith` — it holds after every turn, and after
  every schedule;
* `SinkQueue.Work.Sound.dispatch_eq` — a dispatch waits exactly while the queue is full;
* `SinkQueue.Work.Sound.exists_end` — everything can be dispatched and delivered;
* `SinkQueue.sound_deliverAll` — delivering each message at once is one of these schedules;
* `SinkQueue.delivers_each_message_once` — **exactly-once delivery**.
-/

import Framewire.Sink

set_option autoImplicit false

namespace Framewire

namespace SinkQueue

/-! ### Sinks by the number of the message -/

/-- The messages on which a sink does not panic. -/
def calm (sinks : Nat → Sink) (messages : List Message) : List Message :=
  (messages.zipIdx.filter fun x => (sinks x.2 x.1).isNone).map Prod.fst

/-- What is noted about the messages on which a sink panics. -/
def panics (sinks : Nat → Sink) (messages : List Message) : List Notice :=
  messages.zipIdx.filterMap fun x => (sinks x.2 x.1).map (.sinkPanicked x.1.remote)

variable {sinks : Nat → Sink} {messages : List Message} {message : Message}

/-- What is noted is an error each time. -/
theorem level_of_mem_panics {notice : Notice} (h : notice ∈ panics sinks messages) :
    notice.level = .error := by
  obtain ⟨x, -, hx⟩ := List.mem_filterMap.1 h
  obtain ⟨panic, -, rfl⟩ := Option.map_eq_some_iff.1 hx
  rfl

theorem calm_append_singleton (sinks : Nat → Sink) (messages : List Message) (message : Message) :
    calm sinks (messages ++ [message]) = calm sinks messages ++
      if (sinks messages.length message).isNone then [message] else [] := by
  rw [calm, calm, List.zipIdx_append, List.filter_append, List.map_append, Nat.zero_add,
    List.zipIdx_singleton, List.filter_cons]
  split <;> rfl

theorem panics_append_singleton (sinks : Nat → Sink) (messages : List Message) (message : Message) :
    panics sinks (messages ++ [message]) = panics sinks messages ++
      ((sinks messages.length message).map (.sinkPanicked message.remote)).toList := by
  rw [panics, panics, List.zipIdx_append, List.filterMap_append, Nat.zero_add, List.zipIdx_singleton,
    List.filterMap_cons]
  cases sinks messages.length message <;> rfl

/-- The delivery gives the message that waits longest to the sink; a panic is noted. -/
theorem deliver_of_cons {q : SinkQueue} {queue : List Message} (hqueue : q.queue = message :: queue)
    (sink : Sink) :
    q.deliver sink = { q with
      queue
      given := message :: q.given
      taken := (if (sink message).isNone then [message] else []) ++ q.taken
      notices := ((sink message).map (.sinkPanicked message.remote)).toList ++ q.notices } := by
  rw [deliver, hqueue]
  cases hpanic : sink message <;> simp [hpanic]

theorem deliver_of_nil {q : SinkQueue} (hqueue : q.queue = []) (sink : Sink) :
    q.deliver sink = if q.dispatchers = 0 then { q with ended := true } else q := by
  rw [deliver, hqueue]

namespace Work

/-- What a schedule comes to where the sink may be another one for each message: the message of
number `k` is given to `sinks k`. -/
def runWith (sinks : Nat → Sink) (w : Work) (turns : List Turn) : Work :=
  turns.foldl (fun w turn => w.step (sinks w.queue.given.length) turn) w

/-- With one sink for all messages that is the run of the schedule. -/
theorem runWith_const (sink : Sink) (w : Work) (turns : List Turn) :
    w.runWith (fun _ => sink) turns = w.run sink turns := rfl

@[simp] theorem runWith_nil (sinks : Nat → Sink) (w : Work) : w.runWith sinks [] = w := rfl

@[simp] theorem runWith_cons (sinks : Nat → Sink) (w : Work) (turn : Turn) (turns : List Turn) :
    w.runWith sinks (turn :: turns) =
      (w.step (sinks w.queue.given.length) turn).runWith sinks turns := rfl

theorem runWith_append (sinks : Nat → Sink) (w : Work) (first later : List Turn) :
    w.runWith sinks (first ++ later) = (w.runWith sinks first).runWith sinks later :=
  List.foldl_append

/-- The messages that were dispatched: those that were given to the sink, and those that wait. -/
def dispatched (w : Work) : List Message := w.queue.given.reverse ++ w.queue.queue

/-- What holds at any time. -/
structure Sound (sinks : Nat → Sink) (capacity : Nat) (messages : List Message) (w : Work) : Prop where
  room : w.queue.capacity = capacity
  bounded : w.queue.queue.length ≤ capacity
  /-- the delivery ends when nobody can dispatch and nothing waits -/
  ended : w.queue.ended = true → w.queue.dispatchers = 0 ∧ w.queue.queue = []
  order : messages = w.dispatched ++ w.pending
  results : w.results = List.replicate w.dispatched.length (.ok ())
  taken : w.queue.taken.reverse = calm sinks w.queue.given.reverse
  notices : w.queue.notices.reverse = panics sinks w.queue.given.reverse

variable {capacity : Nat} {w : Work} {turn : Turn} {turns : List Turn}

theorem sound_start (sinks : Nat → Sink) (capacity : Nat) (messages : List Message) :
    Sound sinks capacity messages { queue := { capacity }, pending := messages } where
  room := rfl
  bounded := Nat.zero_le _
  ended := by simp
  order := rfl
  results := rfl
  taken := rfl
  notices := rfl

/-- All dispatchers can go. -/
theorem exists_released (w : Work) (sinks : Nat → Sink) :
    ∃ later, (w.runWith sinks later).queue.dispatchers = 0 ∧
      (w.runWith sinks later).pending = w.pending := by
  induction hdispatchers : w.queue.dispatchers generalizing w with
  | zero => exact ⟨[], hdispatchers, rfl⟩
  | succ n ih =>
      obtain ⟨later, hlater⟩ := ih { w with queue := w.queue.release } (by
        rw [release, hdispatchers, Nat.add_sub_cancel])
      exact ⟨.release :: later, hlater⟩

namespace Sound

/-- As long as there is a dispatcher the delivery has not ended. -/
theorem ended_eq_false (h : Sound sinks capacity messages w)
    (hdispatchers : 0 < w.queue.dispatchers) :
    w.queue.ended = false := by
  rw [Bool.eq_false_iff]
  intro hended
  rw [(h.ended hended).1] at hdispatchers
  exact Nat.lt_irrefl _ hdispatchers

/-- **A dispatch waits exactly while the queue is full**, and is accepted otherwise. -/
theorem dispatch_eq (h : Sound sinks capacity messages w) (hdispatchers : 0 < w.queue.dispatchers)
    (message : Message) :
    w.queue.dispatch message = if w.queue.queue.length = capacity then .waits
      else .accepted { w.queue with queue := w.queue.queue ++ [message] } := by
  have hbounded := h.bounded
  have hfull : w.queue.isFull = decide (w.queue.queue.length = capacity) := by
    rw [isFull, h.room]
    exact decide_eq_decide.2 (by omega)
  have hended := h.ended_eq_false hdispatchers
  rw [SinkQueue.dispatch, if_neg (by simp [hended]), hfull]
  simp

/-- Where there is room, the next message is dispatched at once. -/
theorem step_dispatch (h : Sound sinks capacity messages w) (hdispatchers : 0 < w.queue.dispatchers)
    {pending : List Message} (hpending : w.pending = message :: pending)
    (hroom : w.queue.queue.length ≠ capacity) (sink : Sink) :
    w.step sink .dispatch =
      { queue := { w.queue with queue := w.queue.queue ++ [message] }
        pending
        results := .ok () :: w.results } := by
  rw [Work.step, hpending]
  dsimp only
  rw [if_neg (Nat.ne_of_gt hdispatchers), h.dispatch_eq hdispatchers, if_neg hroom]

/-- A message goes from the pending ones to the queue. -/
theorem accept (h : Sound sinks capacity messages w) (hdispatchers : 0 < w.queue.dispatchers)
    {pending : List Message} (hpending : w.pending = message :: pending)
    (hroom : w.queue.queue.length ≠ capacity) :
    Sound sinks capacity messages
      { queue := { w.queue with queue := w.queue.queue ++ [message] }
        pending
        results := .ok () :: w.results } where
  room := h.room
  bounded := by
    have hbounded := h.bounded
    rw [List.length_append, List.length_singleton]
    omega
  ended := by
    intro hended
    change w.queue.ended = true at hended
    simp [h.ended_eq_false hdispatchers] at hended
  order := by
    rw [h.order, hpending, dispatched, dispatched]
    simp
  results := by
    rw [h.results, ← List.replicate_succ, dispatched, dispatched]
    simp [Nat.add_assoc]
  taken := h.taken
  notices := h.notices

/-- The sink gets the message that waits longest. -/
theorem give (h : Sound sinks capacity messages w) {queue : List Message}
    (hqueue : w.queue.queue = message :: queue) :
    Sound sinks capacity messages
      { w with queue := w.queue.deliver (sinks w.queue.given.length) } := by
  have hbounded := h.bounded
  have horder := h.order
  have hresults := h.results
  rw [dispatched, hqueue] at horder hresults
  rw [hqueue, List.length_cons] at hbounded
  rw [deliver_of_cons hqueue]
  refine ⟨h.room, Nat.le_of_succ_le hbounded, fun hended => ?_, ?_, ?_, ?_, ?_⟩
  · simpa [hqueue] using (h.ended hended).2
  · simpa [dispatched] using horder
  · simpa [dispatched] using hresults
  · dsimp only
    rw [List.reverse_cons, calm_append_singleton, List.reverse_append, h.taken, List.length_reverse]
    split <;> rfl
  · dsimp only
    rw [List.reverse_cons, panics_append_singleton, List.reverse_append, h.notices,
      List.length_reverse]
    cases sinks w.queue.given.length message <;> rfl

/-- **What holds goes on to hold, whosever turn it is.** -/
theorem step (h : Sound sinks capacity messages w) (turn : Turn) :
    Sound sinks capacity messages (w.step (sinks w.queue.given.length) turn) := by
  cases turn with
  | dispatch =>
      rw [Work.step]
      split
      · exact h
      · next message pending hpending =>
        split
        · exact h
        · next hdispatchers =>
          have hpos := Nat.pos_of_ne_zero hdispatchers
          rw [h.dispatch_eq hpos]
          by_cases hfull : w.queue.queue.length = capacity
          · rw [if_pos hfull]
            exact h
          · rw [if_neg hfull]
            exact h.accept hpos hpending hfull
  | share =>
      rw [Work.step, share]
      split
      · exact h
      · next hdispatchers =>
        -- a delivery that has ended has no dispatcher that could be shared
        refine ⟨h.room, h.bounded, fun hended => ?_, h.order, h.results, h.taken, h.notices⟩
        exact absurd (h.ended hended).1 hdispatchers
  | release =>
      refine ⟨h.room, h.bounded, fun hended => ⟨?_, (h.ended hended).2⟩, h.order, h.results, h.taken,
        h.notices⟩
      rw [Work.step, release, (h.ended hended).1]
  | deliver =>
      cases hqueue : w.queue.queue with
      | cons message queue => exact h.give hqueue
      | nil =>
          rw [Work.step, deliver_of_nil hqueue]
          split
          · next hdispatchers =>
            exact ⟨h.room, h.bounded, fun _ => ⟨hdispatchers, hqueue⟩, h.order, h.results, h.taken,
              h.notices⟩
          · exact h

/-- **What holds goes on to hold, whatever the schedule is.** -/
theorem runWith (h : Sound sinks capacity messages w) (turns : List Turn) :
    Sound sinks capacity messages (w.runWith sinks turns) := by
  induction turns generalizing w with
  | nil => exact h
  | cons turn turns ih => exact ih (h.step turn)

/-- What waits can be delivered before anything else is done. -/
theorem exists_delivered (h : Sound sinks capacity messages w) :
    ∃ later, (w.runWith sinks later).queue.queue = [] ∧
      (w.runWith sinks later).pending = w.pending ∧
      (w.runWith sinks later).queue.dispatchers = w.queue.dispatchers := by
  induction hqueue : w.queue.queue generalizing w with
  | nil => exact ⟨[], hqueue, rfl, rfl⟩
  | cons message queue ih =>
      have hdeliver := deliver_of_cons hqueue (sinks w.queue.given.length)
      obtain ⟨later, hlater⟩ := ih (h.step .deliver) (by rw [Work.step, hdeliver])
      refine ⟨.deliver :: later, hlater.1, hlater.2.1, hlater.2.2.trans ?_⟩
      rw [Work.step, hdeliver]

/-- With a dispatcher, everything can be dispatched. -/
theorem exists_dispatched (h : Sound sinks capacity messages w) (hcapacity : 0 < capacity)
    (hdispatchers : 0 < w.queue.dispatchers) :
    ∃ later, (w.runWith sinks later).pending = [] := by
  induction hpending : w.pending generalizing w with
  | nil => exact ⟨[], hpending⟩
  | cons message pending ih =>
      -- the queue is emptied, so that there is room for the next message
      obtain ⟨first, hqueue, hsame, hleft⟩ := h.exists_delivered
      rw [hpending] at hsame
      have h' := h.runWith first
      have hpos := hleft ▸ hdispatchers
      have hroom : (w.runWith sinks first).queue.queue.length ≠ capacity := by
        rw [hqueue]
        exact Nat.ne_of_lt hcapacity
      obtain ⟨later, hlater⟩ := ih (h'.accept hpos hsame hroom) hpos rfl
      refine ⟨first ++ .dispatch :: later, ?_⟩
      rw [runWith_append, runWith_cons, h'.step_dispatch hpos hsame hroom]
      exact hlater

/-- **With a dispatcher, everything can be dispatched and delivered.** -/
theorem exists_end (h : Sound sinks capacity messages w) (hcapacity : 0 < capacity)
    (hdispatchers : 0 < w.queue.dispatchers) :
    ∃ later, (w.runWith sinks later).pending = [] ∧
      (w.runWith sinks later).queue.ended = true := by
  obtain ⟨first, hpending⟩ := h.exists_dispatched hcapacity hdispatchers
  obtain ⟨second, hnone, hsame⟩ := exists_released (w.runWith sinks first) sinks
  obtain ⟨third, hqueue, hsame', hnone'⟩ := ((h.runWith first).runWith second).exists_delivered
  refine ⟨first ++ second ++ third ++ [.deliver], ?_⟩
  rw [runWith_append, runWith_append, runWith_append, runWith_cons, runWith_nil, Work.step,
    deliver_of_nil hqueue, if_pos (hnone'.trans hnone)]
  exact ⟨hsame'.trans (hsame.trans hpending), rfl⟩

end Sound

end Work

/-- Dispatching and delivering each message at once is one of these schedules. -/
theorem sound_deliverAll (sink : Sink) (capacity : Nat) (messages : List Message) :
    Work.Sound (fun _ => sink) capacity messages (deliverAll sink { capacity } messages) := by
  rw [deliverAll, ← Work.runWith_const]
  exact (Work.sound_start _ capacity messages).runWith _

/-! ### Main result -/

/-- **Exactly-once delivery.**  Messages are dispatched through any number of dispatchers to a queue of
any positive capacity, and given to a sink that may panic on any of them, in any schedule.  The queue
never holds more than its capacity; a dispatch waits exactly while the queue is full; no dispatch is
refused; the sink is given a beginning of what was dispatched, each message once and in order, and all
of it when the delivery has ended, which it does not before the last dispatcher has gone; and it takes
the messages on which it does not panic, with one notice for each other one. -/
theorem delivers_each_message_once {capacity : Nat} (hcapacity : 0 < capacity) (name : String)
    (sinks : Nat → Sink) (messages : List Message) :
    ∃ q, start name capacity = .ok q ∧ ∀ turns : List Turn,
      let w := Work.runWith sinks { queue := q, pending := messages } turns
      w.queue.queue.length ≤ capacity ∧
      (0 < w.queue.dispatchers → ∀ message, w.queue.dispatch message =
        if w.queue.queue.length = capacity then .waits
        else .accepted { w.queue with queue := w.queue.queue ++ [message] }) ∧
      (∃ dispatched, messages = dispatched ++ w.pending ∧
        w.results = List.replicate dispatched.length (.ok ()) ∧
        w.queue.given.reverse <+: dispatched ∧
        w.queue.taken.reverse = calm sinks w.queue.given.reverse ∧
        w.queue.notices.reverse = panics sinks w.queue.given.reverse ∧
        (∀ notice ∈ w.queue.notices, notice.level = .error) ∧
        (w.queue.ended = true → w.queue.dispatchers = 0 ∧ w.queue.given.reverse = dispatched)) ∧
      (w.queue.ended = true → w.pending = [] → w.queue.given.reverse = messages ∧
        w.queue.taken.reverse = calm sinks messages ∧
        w.queue.notices.reverse = panics sinks messages) ∧
      (0 < w.queue.dispatchers → ∃ later, (w.runWith sinks later).pending = [] ∧
        (w.runWith sinks later).queue.ended = true) := by
  refine ⟨{ capacity }, if_neg (Nat.ne_of_gt hcapacity), fun turns => ?_⟩
  intro w
  have h : Work.Sound sinks capacity messages w :=
    (Work.sound_start sinks capacity messages).runWith turns
  have hended : w.queue.ended = true → w.queue.given.reverse = w.dispatched := by
    intro hended
    rw [Work.dispatched, (h.ended hended).2, List.append_nil]
  refine ⟨h.bounded, h.dispatch_eq, ⟨w.dispatched, h.order, h.results, List.prefix_append ..,
    h.taken, h.notices,
    fun notice hnotice => level_of_mem_panics (h.notices ▸ List.mem_reverse.2 hnotice),
    fun hend => ⟨(h.ended hend).1, hended hend⟩⟩, fun hend hpending => ?_, h.exists_end hcapacity⟩
  have hall : w.queue.given.reverse = messages := by
    rw [hended hend, h.order, hpending, List.append_nil]
  exact ⟨hall, hall ▸ h.taken, hall ▸ h.notices⟩

/-- A queue with room for one message, of which the first dispatch is repeated in vain, and a sink that
panics on a message and takes an equal one later. -/
theorem delivers_each_message_once_after_panic :
    let first : Message := ⟨[7], .v4 .loopback 1⟩
    let second : Message := ⟨[8], .v4 .loopback 2⟩
    let sinks : Nat → Sink := fun number _ => if number = 0 then some .wordless else none
    let turns : List Turn := [.dispatch, .dispatch, .share, .deliver, .dispatch, .release, .deliver,
      .dispatch, .release, .deliver, .deliver]
    0 < 1 ∧ ∃ q, start "handler" 1 = .ok q ∧
      let w := Work.runWith sinks { queue := q, pending := [first, second, first] } turns
      w.queue.ended = true ∧ w.pending = [] ∧ w.queue.given.reverse = [first, second, first] ∧
        w.queue.taken.reverse = [second, first] ∧
        w.queue.notices.reverse = [.sinkPanicked first.remote .wordless] := by
  intro first second sinks turns
  obtain ⟨q, hstart, h⟩ := delivers_each_message_once (show 0 < 1 by decide) "handler" sinks
    [first, second, first]
  obtain rfl : q = { capacity := 1 } := (Except.ok.inj hstart).symm
  have hended : (Work.runWith sinks
      { queue := { capacity := 1 }, pending := [first, second, first] } turns).queue.ended = true := by
    decide
  have hpending : (Work.runWith sinks
      { queue := { capacity := 1 }, pending := [first, second, first] } turns).pending = [] := by
    decide
  obtain ⟨hgiven, htaken, hnotices⟩ := (h turns).2.2.2.1 hended hpending
  exact ⟨by decide, _, hstart, hended, hpending, hgiven, htaken.trans (by decide),
    hnotices.trans (by decide)⟩

end SinkQueue

end Framewire
