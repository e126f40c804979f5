/-
**The clock beside an idle timer.**

Time passes, activities are recorded, and now and then somebody waits within a bound for the timer
to expire.  The clock does not go through such a wait: it jumps to the time at which the timer
expires, or to the end of the wait, whichever comes first.  Deadlines may be past already, they may
fall on the end of a wait, and there may be activities between two waits.  In every run of these
events the timer shows the latest activity, and a jump ends where a clock that shows every
millisecond ends.

Main definitions:

* `IdleTimer.Watch.Event`, `IdleTimer.Watch.run` — what happens to a timer beside a clock, and what
  it comes to;
* `IdleTimer.Watch.touches` — the times of the activities in a run;
* `IdleTimer.Watch.waitStepwise` — a wait through every millisecond.

Main results:

* `IdleTimer.Watch.wait_eq_waitStepwise` — **the clock jumps over nothing**;
* `IdleTimer.Watch.wait_add` — a wait may be cut in two;
* `IdleTimer.Watch.timer_run` — the timer shows the latest activity, after every run;
* `IdleTimer.Watch.idle_clock_law` — **the law of the clock**.
-/

import Framewire.Idle

set_option autoImplicit false

namespace Framewire

namespace IdleTimer

theorem deadline_eq_some_iff {t : IdleTimer} {time : Nat} :
    t.deadline = some time ↔ ∃ ms, t.timeout = some ms ∧ t.lastActivity + ms = time :=
  Option.map_eq_some_iff

/-- A timer has expired once its timeout has passed since the last activity. -/
theorem expiredBy_iff {t : IdleTimer} {time : Nat} :
    t.expiredBy time = true ↔ ∃ ms, t.timeout = some ms ∧ t.lastActivity + ms ≤ time := by
  rw [expiredBy, deadline]
  cases t.timeout <;> simp

/-- What has expired stays so as time passes. -/
theorem expiredBy_mono {t : IdleTimer} {time later : Nat} (h : t.expiredBy time = true)
    (hle : time ≤ later) : t.expiredBy later = true := by
  obtain ⟨ms, hms, hdue⟩ := expiredBy_iff.1 h
  exact expiredBy_iff.2 ⟨ms, hms, Nat.le_trans hdue hle⟩

namespace Watch

variable {w : Watch}

/-! ### One wait -/

/-- A wait tells whether the timer has expired by its end. -/
theorem fst_wait (w : Watch) (within : Nat) :
    (w.wait within).1 = w.timer.expiredBy (w.now + within) := by
  rw [wait, expiredBy]
  cases w.timer.deadline with
  | none => rfl
  | some deadline => by_cases h : deadline ≤ w.now + within <;> simp [h]

@[simp] theorem timer_wait (w : Watch) (within : Nat) : (w.wait within).2.timer = w.timer := by
  rw [wait]
  split
  · split <;> rfl
  · rfl

theorem wait_of_deadline {within deadline : Nat} (hdeadline : w.timer.deadline = some deadline)
    (hle : deadline ≤ w.now + within) :
    w.wait within = (true, { w with now := max w.now deadline }) := by
  simp only [wait, hdeadline, if_pos hle]

/-- A wait without expiry takes its time. -/
theorem wait_of_not_expiredBy {within : Nat} (h : w.timer.expiredBy (w.now + within) = false) :
    w.wait within = (false, w.advance within) := by
  cases hdeadline : w.timer.deadline with
  | none => simp only [wait, hdeadline]
  | some deadline =>
      have hlt : ¬deadline ≤ w.now + within := by simpa [expiredBy, hdeadline] using h
      simp only [wait, hdeadline, if_neg hlt]

/-- A wait is over at once where the timer has expired before. -/
theorem wait_of_expiredBy_now (h : w.timer.expiredBy w.now = true) (within : Nat) :
    w.wait within = (true, w) := by
  obtain ⟨ms, hms, hdue⟩ := expiredBy_iff.1 h
  rw [wait_of_deadline (deadline_eq_some_iff.2 ⟨ms, hms, rfl⟩) (Nat.le_add_right_of_le hdue),
    Nat.max_eq_left hdue]

/-- Once a wait has seen the timer expire, the clock shows so. -/
theorem expiredBy_now_of_wait {within : Nat} (h : (w.wait within).1 = true) :
    (w.wait within).2.timer.expiredBy (w.wait within).2.now = true := by
  rw [fst_wait] at h
  obtain ⟨ms, hms, hle⟩ := expiredBy_iff.1 h
  rw [timer_wait, wait_of_deadline (deadline_eq_some_iff.2 ⟨ms, hms, rfl⟩) hle]
  exact expiredBy_iff.2 ⟨ms, hms, Nat.le_max_right _ _⟩

/-! ### Millisecond by millisecond -/

/-- A wait for expiry, at most as long as given, with a clock that shows every millisecond. -/
def waitStepwise (w : Watch) : (within : Nat) → Bool × Watch
  | 0 => (w.timer.expiredBy w.now, w)
  | within + 1 =>
    if w.timer.expiredBy w.now then (true, w) else (w.advance 1).waitStepwise within

/-- **The clock jumps over nothing**: it ends where one ends that shows every millisecond. -/
theorem wait_eq_waitStepwise (w : Watch) (within : Nat) :
    w.wait within = w.waitStepwise within := by
  induction within generalizing w with
  | zero =>
      rw [waitStepwise]
      cases hexpired : w.timer.expiredBy w.now with
      | true => exact wait_of_expiredBy_now hexpired 0
      | false => exact wait_of_not_expiredBy hexpired
  | succ within ih =>
      rw [waitStepwise]
      split
      · next hexpired => exact wait_of_expiredBy_now hexpired _
      · next hexpired =>
        rw [← ih]
        have hend : w.now + (within + 1) = (w.advance 1).now + within := by
          simp only [advance]
          omega
        cases hlater : w.timer.expiredBy (w.now + (within + 1)) with
        | false =>
            rw [wait_of_not_expiredBy hlater, wait_of_not_expiredBy (hend ▸ hlater), advance,
              advance, advance, hend]
            rfl
        | true =>
            -- the deadline is ahead, so it does not matter that the clock has moved
            obtain ⟨ms, hms, hle⟩ := expiredBy_iff.1 hlater
            have hahead : w.now < w.timer.lastActivity + ms :=
              Nat.lt_of_not_le fun hpast => hexpired (expiredBy_iff.2 ⟨ms, hms, hpast⟩)
            have hdeadline := deadline_eq_some_iff.2 ⟨ms, hms, rfl⟩
            rw [wait_of_deadline hdeadline hle,
              wait_of_deadline (w := w.advance 1) hdeadline (hend ▸ hle), advance,
              Nat.max_eq_right (Nat.le_of_lt hahead), Nat.max_eq_right hahead]

/-- **A wait may be cut in two**, the second part for those whose first part saw no expiry. -/
theorem wait_add (w : Watch) (first second : Nat) :
    w.wait (first + second) =
      if (w.wait first).1 then w.wait first else (w.wait first).2.wait second := by
  simp only [wait_eq_waitStepwise]
  induction first generalizing w with
  | zero =>
      rw [Nat.zero_add, waitStepwise]
      split
      · next hexpired =>
        change w.timer.expiredBy w.now = true at hexpired
        rw [← wait_eq_waitStepwise, wait_of_expiredBy_now hexpired, hexpired]
      · rfl
  | succ first ih =>
      rw [Nat.succ_add, waitStepwise, waitStepwise]
      split
      · rfl
      · exact ih (w.advance 1)

/-! ### Runs -/

/-- What happens to a timer beside a clock. -/
inductive Event where
  | advance (ms : Nat)
  | touch
  | wait (within : Nat)
deriving DecidableEq, Repr

/-- The watch after an event. -/
def step (w : Watch) : Event → Watch
  | .advance ms => w.advance ms
  | .touch => w.touch
  | .wait within => (w.wait within).2

/-- The watch after events. -/
def run (w : Watch) (events : List Event) : Watch := events.foldl step w

/-- The times of the activities in a run of events, in order. -/
def touches (w : Watch) : List Event → List Nat
  | [] => []
  | event :: events =>
    if event = .touch then w.now :: (w.step event).touches events
    else (w.step event).touches events

/-- A timer that is started at the time that the clock shows. -/
def startAt (timeout : Option Nat) (now : Nat) : Watch := ⟨now, .start timeout now⟩

variable {event : Event} {events more : List Event}

@[simp] theorem run_nil (w : Watch) : w.run [] = w := rfl

@[simp] theorem run_cons (w : Watch) (event : Event) (events : List Event) :
    w.run (event :: events) = (w.step event).run events := rfl

/-- **Activities set the timer anew, and nothing else does.** -/
theorem timer_step (w : Watch) (event : Event) :
    (w.step event).timer = if event = .touch then w.timer.touch w.now else w.timer := by
  cases event with
  | advance ms => rfl
  | touch => rfl
  | wait within => exact timer_wait w within

/-- The clock does not go back. -/
theorem now_le_step (w : Watch) (event : Event) : w.now ≤ (w.step event).now := by
  cases event with
  | advance ms => exact Nat.le_add_right _ _
  | touch => exact Nat.le_refl _
  | wait within =>
      rw [step, wait]
      split
      · split
        · exact Nat.le_max_left _ _
        · exact Nat.le_add_right _ _
      · exact Nat.le_add_right _ _

/-- The latest activity of a run, if the one before it came at the time `last`. -/
theorem getLastD_touches_cons (w : Watch) (event : Event) (events : List Event) (last : Nat) :
    (w.touches (event :: events)).getLastD last =
      ((w.step event).touches events).getLastD (if event = .touch then w.now else last) := by
  rw [touches]
  split
  · exact List.getLastD_cons
  · rfl

/-- **The timer shows the latest activity**, after every run. -/
theorem timer_run (w : Watch) (events : List Event) :
    (w.run events).timer =
      ⟨w.timer.timeout, (w.touches events).getLastD w.timer.lastActivity⟩ := by
  induction events generalizing w with
  | nil => rfl
  | cons event events ih =>
      rw [run_cons, ih, getLastD_touches_cons, timer_step]
      split <;> rfl

/-- No activity is ahead of the clock. -/
theorem lastActivity_le_run (h : w.timer.lastActivity ≤ w.now) (events : List Event) :
    (w.run events).timer.lastActivity ≤ (w.run events).now := by
  induction events generalizing w with
  | nil => exact h
  | cons event events ih =>
      rw [run_cons]
      refine ih ?_
      rw [timer_step]
      split
      · exact now_le_step w event
      · exact Nat.le_trans h (now_le_step w event)

/-- The time of the latest activity does not go back. -/
theorem le_lastActivity_run (h : w.timer.lastActivity ≤ w.now) (events : List Event) :
    w.timer.lastActivity ≤ (w.run events).timer.lastActivity := by
  induction events generalizing w with
  | nil => exact Nat.le_refl _
  | cons event events ih =>
      have hstep : w.timer.lastActivity ≤ (w.step event).timer.lastActivity ∧
          (w.step event).timer.lastActivity ≤ (w.step event).now := by
        rw [timer_step]
        split
        · exact ⟨h, now_le_step w event⟩
        · exact ⟨Nat.le_refl _, Nat.le_trans h (now_le_step w event)⟩
      exact Nat.le_trans hstep.1 (ih hstep.2)

/-- A timer that has expired stays so until the next activity. -/
theorem expiredBy_now_run (h : w.timer.expiredBy w.now = true) (htouch : .touch ∉ events) :
    (w.run events).timer.expiredBy (w.run events).now = true := by
  induction events generalizing w with
  | nil => exact h
  | cons event events ih =>
      simp only [List.mem_cons, not_or] at htouch
      refine ih ?_ htouch.2
      rw [timer_step, if_neg (Ne.symm htouch.1)]
      exact expiredBy_mono h (now_le_step w event)

/-! ### Main result -/

/-- **The law of the clock.**  After every run of a timer that was started at any time:

* the timer shows the time of the latest activity, the start being one, and that is not ahead of the
  clock;
* the deadline is the timeout after that time, if there is a timeout, and never goes back;
* a wait sees the timer expire exactly if the deadline is not behind the end of the wait.  Then the
  clock is at the deadline, or stays if the deadline has passed; otherwise it is at the end of the
  wait.  That is where a clock ends that shows every millisecond;
* a wait leaves the timer alone, so after an expiry every wait sees one at once, until the next
  activity;
* a wait that is cut in two gives the same answer at the same time. -/
theorem idle_clock_law (timeout : Option Nat) (created : Nat) (events : List Event) :
    let w := (startAt timeout created).run events
    w.timer.lastActivity = ((startAt timeout created).touches events).getLastD created ∧
    w.timer.lastActivity ≤ w.now ∧
    w.timer.deadline = timeout.map (w.timer.lastActivity + ·) ∧
    (∀ more deadline, w.timer.deadline = some deadline →
      ∃ later, (w.run more).timer.deadline = some later ∧ deadline ≤ later) ∧
    (∀ within,
      ((w.wait within).1 = true ↔
        ∃ ms, timeout = some ms ∧ w.timer.lastActivity + ms ≤ w.now + within) ∧
      ((w.wait within).1 = true → ∃ ms, timeout = some ms ∧
        (w.wait within).2.now = max w.now (w.timer.lastActivity + ms)) ∧
      ((w.wait within).1 = false → (w.wait within).2.now = w.now + within) ∧
      w.wait within = w.waitStepwise within ∧
      (w.wait within).2.timer = w.timer ∧
      ((w.wait within).1 = true → ∀ more, .touch ∉ more → ∀ again,
        ((w.wait within).2.run more).wait again = (true, (w.wait within).2.run more))) ∧
    ∀ first second, w.wait (first + second) =
      if (w.wait first).1 then w.wait first else (w.wait first).2.wait second := by
  intro w
  have htimer : w.timer =
      ⟨timeout, ((startAt timeout created).touches events).getLastD created⟩ := timer_run _ events
  have htimeout : w.timer.timeout = timeout := by rw [htimer]
  have hbehind : w.timer.lastActivity ≤ w.now := lastActivity_le_run (Nat.le_refl created) events
  refine ⟨by rw [htimer], hbehind, by rw [deadline, htimeout], ?_, fun within => ?_, wait_add w⟩
  · intro more deadline hdeadline
    obtain ⟨ms, hms, rfl⟩ := deadline_eq_some_iff.1 hdeadline
    have hms' : (w.run more).timer.timeout = some ms := by
      rw [timer_run]
      exact hms
    exact ⟨_, deadline_eq_some_iff.2 ⟨ms, hms', rfl⟩,
      Nat.add_le_add_right (le_lastActivity_run hbehind more) ms⟩
  · have hsees : (w.wait within).1 = true ↔
        ∃ ms, timeout = some ms ∧ w.timer.lastActivity + ms ≤ w.now + within := by
      rw [fst_wait, expiredBy_iff, htimeout]
    refine ⟨hsees, fun hexpired => ?_, fun hexpired => ?_, wait_eq_waitStepwise w within,
      timer_wait w within, fun hexpired more htouch again => ?_⟩
    · obtain ⟨ms, hms, hle⟩ := hsees.1 hexpired
      refine ⟨ms, hms, ?_⟩
      rw [wait_of_deadline (deadline_eq_some_iff.2 ⟨ms, htimeout.trans hms, rfl⟩) hle]
    · rw [fst_wait] at hexpired
      rw [wait_of_not_expiredBy hexpired, advance]
    · exact wait_of_expiredBy_now
        (expiredBy_now_run (expiredBy_now_of_wait hexpired) htouch) again

/-- A deadline that an activity has moved falls on the end of a wait: the wait sees it, a shorter
one does not, and waits after it see it at once. -/
theorem idle_clock_law_at_end_of_wait :
    let w := (startAt (some 200) 10).run [.advance 150, .touch, .wait 120]
    w.now = 280 ∧ w.timer.deadline = some 360 ∧ (w.wait 79).1 = false ∧
      (w.wait 80).1 = true ∧ (w.wait 80).2.now = 360 ∧
      (∀ again, ((w.wait 80).2.run [.wait 5, .advance 7]).wait again =
        (true, (w.wait 80).2.run [.wait 5, .advance 7])) ∧
      ((w.wait 80).2.run [.wait 5, .advance 7]).now = 367 := by
  intro w
  obtain ⟨-, -, -, -, hwait, -⟩ :=
    idle_clock_law (some 200) 10 [.advance 150, .touch, .wait 120]
  have hexpired : (w.wait 80).1 = true := by decide
  obtain ⟨-, hnow, -, -, -, hagain⟩ := hwait 80
  obtain ⟨ms, hms, hnow⟩ := hnow hexpired
  obtain rfl : 200 = ms := Option.some.inj hms
  exact ⟨by decide, by decide, by decide, hexpired, hnow,
    hagain hexpired [.wait 5, .advance 7] (by decide), by decide⟩

end Watch

end IdleTimer

end Framewire
