/-
**When a session ends for being idle.**

A session is active when its connection is made, when bytes are read, and when a payload is written
in full.  The end of the stream is no activity, and neither is a write that fails.  A session with
an idle timeout ends for being idle when that much time has passed since the last activity, not
before and not later; a session without one never does.  The timer of the handler is set anew in two
places and looked at in a third; here the times of activities are read off the history of the
session instead, and the timer is shown to agree with them.

Main definitions:

* `Session.isActivity`, `Session.activities` — the events that count as activity, and their times in
  a run;
* `Session.conclusion` — when a run ended the session, and how.

Main results:

* `Session.timer_step`, `Session.timer_run` — the timer follows the activities, step by step and in
  every run;
* `Session.deadline_le_of_idle` — a session that ends for being idle has been so for long enough;
* `Session.idle_when_due` — **a session ends for being idle exactly when it should**.
-/

import Framewire.Config.Basic
import Framewire.Proofs.SessionSteps
import Mathlib.Data.List.Chain

set_option autoImplicit false

namespace Framewire

namespace Session

/-! ### Activities -/

/-- Whether an event is an activity of a session: the handler reads something, or it writes the next
payload in full; an empty payload always is. -/
def isActivity (s : Session) : Event → Bool
  | .read chunk => s.isSelecting && !chunk.isEmpty
  | .write outcome =>
    s.isSelecting && s.queue.head?.any fun payload => outcome = .complete || payload.isEmpty
  | _ => false

/-- The times of the activities in a run of events, in order. -/
def activities (s : Session) : List Event → List Nat
  | [] => []
  | event :: events =>
    if s.isActivity event then s.now :: (s.step event).activities events
    else (s.step event).activities events

/-- When a session ended in a run of events, and how. -/
def conclusion (s : Session) : List Event → Option (Nat × Except Fault CloseReason)
  | [] => s.ended.map (s.now, ·)
  | event :: events =>
    match s.ended with
    | some result => some (s.now, result)
    | none => (s.step event).conclusion events

variable {s t : Session} {event : Event} {events : List Event} {idleTimeout : Option Nat}
  {last time : Nat}

/-! ### The timer -/

/-- **Activities set the timer anew, and nothing else does.** -/
theorem timer_step (s : Session) (event : Event) :
    (s.step event).handler.timer =
      if s.isActivity event then s.handler.timer.touch s.now else s.handler.timer := by
  cases event with
  | read chunk =>
      cases hselecting : s.isSelecting with
      | false => simp [step, isActivity, hselecting]
      | true => cases chunk <;> simp [step, isActivity, hselecting, apply, Handler.react,
          Handler.receive]
  | write outcome =>
      cases hqueue : s.queue with
      | nil => simp [step, isActivity, hqueue]
      | cons payload rest =>
          cases hselecting : s.isSelecting with
          | false => simp [step, isActivity, hqueue, hselecting]
          | true =>
              cases outcome <;> cases payload <;>
                simp [step, isActivity, hqueue, hselecting, apply, Handler.react, Handler.write]
  | pass ms =>
      simp only [step, pass, isActivity, Bool.false_eq_true, if_false]
      split
      · split
        · split <;> rfl
        · rfl
      · rfl
  | deliver =>
      simp only [step, isActivity, Bool.false_eq_true, if_false]
      split
      · split <;> rfl
      · rfl
  | queue payload => simp only [step, isActivity]; split <;> rfl
  | detach => rfl
  | refuse fault => simp only [step, isActivity]; split <;> rfl
  | readFailed error => simp only [step, isActivity]; split <;> rfl
  | outboundClosed => simp only [step, isActivity]; split <;> rfl
  | expire => simp only [step, isActivity]; split <;> rfl
  | signal => simp only [step, isActivity]; split <;> rfl

/-- The last activity of a run, if the one before it came at the time `last`. -/
theorem getLastD_activities_cons (s : Session) (event : Event) (events : List Event) (last : Nat) :
    (s.activities (event :: events)).getLastD last =
      ((s.step event).activities events).getLastD (if s.isActivity event then s.now else last) := by
  rw [activities]
  split
  · exact List.getLastD_cons
  · rfl

theorem timer_step_eq (htimer : s.handler.timer = ⟨idleTimeout, last⟩) (event : Event) :
    (s.step event).handler.timer =
      ⟨idleTimeout, if s.isActivity event then s.now else last⟩ := by
  rw [timer_step, htimer]
  split <;> rfl

/-- **The timer shows the last activity**, after every run of events. -/
theorem timer_run (htimer : s.handler.timer = ⟨idleTimeout, last⟩) (events : List Event) :
    (s.run events).handler.timer = ⟨idleTimeout, (s.activities events).getLastD last⟩ := by
  induction events generalizing s last with
  | nil => exact htimer
  | cons event events ih =>
      rw [run_cons, getLastD_activities_cons]
      exact ih (timer_step_eq htimer event)

/-! ### The end of a session -/

/-- What an event does to a session takes no time back, and a session that has ended stays so. -/
theorem Effect.now_le (he : Effect s event t) : s.now ≤ t.now := by
  cases he with
  | waited ms => exact Nat.le_add_right _ _
  | timedOut => exact Nat.le_max_left _ _
  | _ => exact Nat.le_refl _

theorem exists_ended_of_not_isRunning (h : s.isRunning = false) :
    ∃ result, s.ended = some result := by
  rw [isRunning, Option.isNone_eq_false_iff] at h
  exact Option.isSome_iff_exists.1 h

theorem Effect.ended_eq (he : Effect s event t) (h : s.isRunning = false) : t.ended = s.ended := by
  have hselecting : ¬s.isSelecting = true := fun hselecting => by
    simp [isRunning_of_isSelecting hselecting] at h
  cases he with
  | waited => rfl
  | queued => rfl
  | detached => rfl
  | ignored => rfl
  | timedOut _ _ h' => exact absurd h' hselecting
  | delivered _ _ h' => simp [h] at h'
  | received _ h' => exact absurd h' hselecting
  | wrote _ _ _ h' => exact absurd h' hselecting
  | brokeOff _ _ _ _ h' => exact absurd h' hselecting
  | ended _ _ _ h' => simp [h'.isRunning] at h

/-- An event after which a session is idle came when the timer had expired, and was no activity. -/
theorem Effect.expired (he : Effect s event t) (h : s.isRunning = true)
    (hidle : t.ended = some (.ok .idle)) :
    s.handler.timer.expiredBy t.now = true ∧ s.isActivity event = false := by
  rw [isRunning_iff] at h
  cases he with
  | timedOut ms deadline _ hdeadline _ =>
      refine ⟨?_, rfl⟩
      rw [IdleTimer.expiredBy, hdeadline]
      exact decide_eq_true (Nat.le_max_right _ _)
  | ended event result notices hends =>
      obtain rfl : result = .ok .idle := Option.some.inj hidle
      cases hends with
      | expired _ htimer => exact ⟨htimer, rfl⟩
  | _ => simp [h] at hidle

theorem now_le_run (s : Session) (events : List Event) : s.now ≤ (s.run events).now := by
  induction events generalizing s with
  | nil => exact Nat.le_refl _
  | cons event events ih => exact Nat.le_trans (effect_step s event).now_le (ih _)

theorem isActivity_of_not_isRunning (h : s.isRunning = false) (event : Event) :
    s.isActivity event = false := by
  cases event <;> simp [isActivity, isSelecting, h]

/-- Nothing happens in a session that has ended. -/
theorem run_of_not_isRunning (h : s.isRunning = false) (events : List Event) :
    (s.run events).ended = s.ended ∧ s.activities events = [] := by
  induction events generalizing s with
  | nil => exact ⟨rfl, rfl⟩
  | cons event events ih =>
      have hended := (effect_step s event).ended_eq h
      have hstep : (s.step event).isRunning = false := by rw [isRunning, hended, ← isRunning, h]
      rw [run_cons, activities, isActivity_of_not_isRunning h, (ih hstep).1, (ih hstep).2, hended]
      exact ⟨rfl, rfl⟩

theorem conclusion_of_ended {result : Except Fault CloseReason} (h : s.ended = some result)
    (events : List Event) : s.conclusion events = some (s.now, result) := by
  cases events <;> simp [conclusion, h]

theorem conclusion_cons_of_isRunning (h : s.isRunning = true) (event : Event)
    (events : List Event) : s.conclusion (event :: events) = (s.step event).conclusion events := by
  rw [conclusion, isRunning_iff.1 h]

/-- As long as a session runs, it has not ended. -/
theorem conclusion_append (h : (s.run events).isRunning = true) (later : List Event) :
    s.conclusion (events ++ later) = (s.run events).conclusion later := by
  induction events generalizing s with
  | nil => rfl
  | cons event events ih =>
      have hrunning : s.isRunning = true := by
        by_contra hnot
        rw [Bool.not_eq_true] at hnot
        have := (run_of_not_isRunning hnot (event :: events)).1
        rw [isRunning, this, ← isRunning, hnot] at h
        exact absurd h (by simp)
      rw [List.cons_append, conclusion_cons_of_isRunning hrunning]
      exact ih h

/-- A run that ends a session does so at some time that has passed since. -/
theorem exists_conclusion {result : Except Fault CloseReason}
    (h : (s.run events).ended = some result) :
    ∃ time, s.conclusion events = some (time, result) ∧ time ≤ (s.run events).now := by
  induction events generalizing s with
  | nil => exact ⟨s.now, by simp [conclusion, ← h], Nat.le_refl _⟩
  | cons event events ih =>
      cases hrunning : s.isRunning with
      | true =>
          rw [conclusion_cons_of_isRunning hrunning]
          exact ih h
      | false =>
          rw [(run_of_not_isRunning hrunning _).1] at h
          exact ⟨s.now, conclusion_of_ended h _, now_le_run s _⟩

/-- **A session that ends for being idle has been so for long enough.** -/
theorem deadline_le_of_idle (htimer : s.handler.timer = ⟨idleTimeout, last⟩)
    (hrunning : s.isRunning = true) (h : s.conclusion events = some (time, .ok .idle)) :
    ∃ timeout, idleTimeout = some timeout ∧
      (s.activities events).getLastD last + timeout ≤ time := by
  induction events generalizing s last with
  | nil => simp [conclusion, isRunning_iff.1 hrunning] at h
  | cons event events ih =>
      rw [conclusion_cons_of_isRunning hrunning] at h
      rw [getLastD_activities_cons]
      cases hstep : (s.step event).isRunning with
      | true => exact ih (timer_step_eq htimer event) hstep h
      | false =>
          obtain ⟨result, hended⟩ := exists_ended_of_not_isRunning hstep
          rw [conclusion_of_ended hended] at h
          obtain ⟨rfl, rfl⟩ := Prod.mk.inj (Option.some.inj h)
          obtain ⟨hexpired, hactivity⟩ := (effect_step s event).expired hrunning hended
          rw [(run_of_not_isRunning hstep events).2, hactivity]
          rw [htimer, IdleTimer.expiredBy, IdleTimer.deadline, Option.any_eq_true] at hexpired
          obtain ⟨deadline, hdeadline, hle⟩ := hexpired
          obtain ⟨timeout, rfl, rfl⟩ := Option.map_eq_some_iff.1 hdeadline
          exact ⟨timeout, rfl, of_decide_eq_true hle⟩

/-- A session that waits and is not interrupted ends when its timer expires, and not before. -/
theorem conclusion_pass {timeout : Nat} (htimer : s.handler.timer = ⟨some timeout, last⟩)
    (hselecting : s.isSelecting = true) (ms : Nat) :
    s.conclusion [.pass ms, .expire] =
      if last + timeout ≤ s.now + ms then some (max s.now (last + timeout), .ok .idle)
      else none := by
  have hrunning := isRunning_of_isSelecting hselecting
  have hdeadline : s.handler.timer.deadline = some (last + timeout) := by rw [htimer]; rfl
  rw [conclusion_cons_of_isRunning hrunning, step, if_pos hrunning, pass, hdeadline]
  by_cases hlt : last + timeout < s.now + ms
  · -- the timer expires while time passes
    dsimp only
    rw [if_pos ⟨hselecting, hlt⟩, if_pos (Nat.le_of_lt hlt)]
    exact conclusion_of_ended rfl _
  · have hwaited : ({ s with now := s.now + ms } : Session).isRunning = true := hrunning
    dsimp only
    rw [if_neg fun h => hlt h.2, conclusion_cons_of_isRunning hwaited]
    have hexpired : s.handler.timer.expiredBy (s.now + ms) =
        decide (last + timeout ≤ s.now + ms) := by
      rw [IdleTimer.expiredBy, hdeadline, Option.any_some]
    by_cases hle : last + timeout ≤ s.now + ms
    · -- the handler looks at its timer at the very time at which it expires
      have hmax : max s.now (last + timeout) = s.now + ms := by omega
      rw [if_pos hle, hmax, step, if_pos ⟨hselecting, by simp [hexpired, hle]⟩]
      rfl
    · rw [if_neg hle, step, if_neg fun h => hle (by simpa [hexpired] using h.2)]
      simp [conclusion, isRunning_iff.1 hrunning]

/-- Neither the end of the stream nor a write that fails is an activity. -/
theorem of_isActivity (h : s.isActivity event = true) :
    (∃ chunk, event = .read chunk ∧ chunk ≠ []) ∨
      ∃ outcome, event = .write outcome ∧ (s.step event).ended = none := by
  cases event with
  | read chunk =>
      refine .inl ⟨chunk, rfl, fun hnil => ?_⟩
      simp [isActivity, hnil] at h
  | write outcome =>
      refine .inr ⟨outcome, rfl, ?_⟩
      rw [isActivity, Bool.and_eq_true, Option.any_eq_true] at h
      obtain ⟨hselecting, payload, hhead, hcomplete⟩ := h
      obtain ⟨rest, hqueue⟩ := List.head?_eq_some_iff.1 hhead
      rcases s.handler.write_cases s.now payload outcome with hwrite | ⟨count, error, rfl, hne, -⟩
      · simp [step, hqueue, hselecting, apply, Handler.react, hwrite]
      · simp [hne] at hcomplete
  | _ => simp [isActivity] at h

/-- The initial write comes at the time at which the connection is made, and does not end the
session well. -/
theorem startWith_spec (remote : Endpoint) (idleTimeout : Option Nat) (created : Nat)
    (first : Option (Bytes × WriteOutcome)) :
    (startWith remote idleTimeout created first).handler.timer = ⟨idleTimeout, created⟩ ∧
      ∀ reason, (startWith remote idleTimeout created first).ended ≠ some (.ok reason) := by
  rcases first with _ | ⟨payload, outcome⟩
  · exact ⟨rfl, by simp [startWith, start]⟩
  · simp only [startWith, writeFirst, apply, Handler.react, start]
    rcases Handler.write_cases (.new remote idleTimeout created) created payload outcome with
      hwrite | ⟨count, error, -, -, hwrite⟩
    · rw [hwrite]
      exact ⟨rfl, by simp⟩
    · rw [hwrite]
      exact ⟨rfl, by simp⟩

/-! ### Main result -/

/-- **A session ends for being idle exactly when it should.**  Let the last activity of a run be the
last time at which something was read or a payload was written in full, or else the time at which
the connection was made.  If the session ended for being idle, it has an idle timeout, and that much
time had passed since its last activity; so it never does as long as activities are closer to each
other.  A session that waits ends when the timeout has passed since its last activity, or at once if
handing messages to the sink took longer than that, and not before.  As long as it still hands over a
message, because the queue to the sink is full, it does not end for being idle, however long that
takes; the timeout counts again when the queue has taken the message.  Only activities move the timer,
and neither the end of the stream nor a failed write is one.  Without a timeout, as where zero is
configured, a session never ends for being idle. -/
theorem idle_when_due (remote : Endpoint) (idleTimeout : Option Nat) (created : Nat)
    (first : Option (Bytes × WriteOutcome)) (events : List Event) :
    let start := startWith remote idleTimeout created first
    let s := start.run events
    let times := start.activities events
    let last := times.getLastD created
    (∀ time, start.conclusion events = some (time, .ok .idle) →
        ∃ timeout, idleTimeout = some timeout ∧ last + timeout ≤ time) ∧
      (∀ timeout, idleTimeout = some timeout →
        List.IsChain (fun a b => b < a + timeout) (created :: times ++ [s.now]) →
          s.ended ≠ some (.ok .idle)) ∧
      (∀ timeout ms, idleTimeout = some timeout → s.isSelecting = true →
        start.conclusion (events ++ [.pass ms, .expire]) =
          if last + timeout ≤ s.now + ms then some (max s.now (last + timeout), .ok .idle)
          else none) ∧
      (∀ event, (s.step event).handler.timer.lastActivity =
        if s.isActivity event then s.now else last) ∧
      (∀ event, s.isActivity event = true →
        (∃ chunk, event = .read chunk ∧ chunk ≠ []) ∨
          ∃ outcome, event = .write outcome ∧ (s.step event).ended = none) ∧
      (idleTimeout = none → s.ended ≠ some (.ok .idle)) ∧ timeoutOfMs 0 = none := by
  intro start s times last
  obtain ⟨htimer, hstart⟩ : start.handler.timer = ⟨idleTimeout, created⟩ ∧
    ∀ reason, start.ended ≠ some (.ok reason) := startWith_spec ..
  have htimer' : s.handler.timer = ⟨idleTimeout, last⟩ := timer_run htimer events
  have hdue : ∀ time, start.conclusion events = some (time, .ok .idle) →
      ∃ timeout, idleTimeout = some timeout ∧ last + timeout ≤ time := by
    intro time h
    cases hrunning : start.isRunning with
    | true => exact deadline_le_of_idle htimer hrunning h
    | false =>
        obtain ⟨result, hended⟩ := exists_ended_of_not_isRunning hrunning
        rw [conclusion_of_ended hended] at h
        obtain ⟨-, rfl⟩ := Prod.mk.inj (Option.some.inj h)
        exact absurd hended (hstart _)
  refine ⟨hdue, ?_, ?_, fun event => ?_, fun event => of_isActivity, ?_, rfl⟩
  · intro timeout htimeout hchain hidle
    obtain ⟨time, htime, hle⟩ := exists_conclusion hidle
    obtain ⟨timeout', htimeout', hdeadline⟩ := hdue time htime
    obtain rfl := Option.some.inj (htimeout.symm.trans htimeout')
    have hlast : last ∈ (created :: times).getLast? := by
      rw [List.getLast?_cons, ← List.getLastD_eq_getLast?]
      rfl
    have := (List.isChain_append.1 hchain).2.2 last hlast s.now rfl
    exact absurd (Nat.le_trans hdeadline hle) (Nat.not_le_of_gt this)
  · rintro timeout ms rfl hselecting
    rw [conclusion_append (isRunning_of_isSelecting hselecting)]
    exact conclusion_pass htimer' hselecting ms
  · rw [timer_step_eq htimer']
  · rintro rfl hidle
    obtain ⟨time, htime, -⟩ := exists_conclusion hidle
    obtain ⟨_, hnone, -⟩ := hdue time htime
    exact absurd hnone (by simp)

/-- The beginning of a frame is read after three of five milliseconds and a payload is written four
later, so that the session lasts until five after that, however the rest of the time passes; a write
that fails at the end of it comes to something else.  The same session without a timeout goes on. -/
theorem idle_when_due_after_activities :
    let start := startWith .unbound (some 5) 7 (some ([0x00, 1], .complete))
    let timeless := startWith .unbound none 7 (some ([0x00, 1], .complete))
    let events : List Event :=
      [.pass 3, .read [0x20], .pass 4, .queue [9], .write .complete, .queue [8], .pass 4]
    let s := start.run events
    start.activities events = [10, 14] ∧ s.ended ≠ some (.ok .idle) ∧
      start.conclusion (events ++ [.pass 0, .expire]) = none ∧
      start.conclusion (events ++ [.pass 9, .expire]) = some (19, .ok .idle) ∧
      (∃ timeout, some 5 = some timeout ∧ 14 + timeout ≤ 19) ∧
      s.isActivity (.write (.broken 0 .brokenPipe)) = false ∧
      (timeless.run (events ++ [.pass 100, .expire])).ended ≠ some (.ok .idle) := by
  intro start timeless events s
  have hactivities : start.activities events = [10, 14] := by decide +kernel
  have hnow : s.now = 18 := by decide +kernel
  have hselecting : s.isSelecting = true := by decide +kernel
  obtain ⟨-, hclose, hpass, -⟩ :=
    idle_when_due .unbound (some 5) 7 (some ([0x00, 1], .complete)) events
  have hdue := (idle_when_due .unbound (some 5) 7 (some ([0x00, 1], .complete))
    (events ++ [.pass 9, .expire])).1
  obtain ⟨-, -, -, -, -, hnever, -⟩ :=
    idle_when_due .unbound none 7 (some ([0x00, 1], .complete)) (events ++ [.pass 100, .expire])
  have hlater : start.conclusion (events ++ [.pass 9, .expire]) = some (19, .ok .idle) :=
    (hpass 5 9 rfl hselecting).trans (by rw [hactivities, hnow]; rfl)
  have hlast : (start.activities (events ++ [.pass 9, .expire])).getLastD 7 = 14 := by
    decide +kernel
  exact ⟨hactivities, hclose 5 rfl (by decide +kernel),
    (hpass 5 0 rfl hselecting).trans (by rw [hactivities, hnow]; rfl), hlater,
    hlast ▸ hdue 19 hlater, by decide +kernel, hnever rfl⟩

end Session

end Framewire
