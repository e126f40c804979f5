/-
**The account of a pool's payloads.**

In a pool that is neither closed nor told to shut down, every payload that was submitted is in
exactly one place.  It waits in the backlog of its destination, or it was written in full to a
connection to this destination, or it is lost; and lost are only the payloads of failed dials and
failed writes.

Main definitions:

* `Pool.NoDial`, `Pool.Quiet` — no task begins to dial on the way from a pool to another one;
* `Pool.dials` — the destinations that a slot dialed;
* `Pool.Logged` — what the dials of slots have to do with the tasks of a pool;
* `Pool.allows`, `Pool.undisturbed` — what can happen as long as nothing is told to shut down;
* `Pool.Task.Attempts` — an event is the end of an attempt to write a payload.

Main results:

* `Pool.Logged.run` — **a slot dials at most once, and what is written goes to what it dialed**;
* `Pool.every_payload_in_one_place` — **nothing is lost or duplicated** but by a dial or a write
  that fails.
-/

import Framewire.Proofs.PoolBacklog

set_option autoImplicit false

namespace Framewire

namespace Pool

variable {α : Type} {p q r : Pool α} {t t' u : Task α} {event : Event α}
  {outcomes others : List (Outcome α)} {destination d : Endpoint} {slot : Nat} {payload : α}

/-! ### Steps without a dial -/

/-- No task begins to dial on the way from a pool to another one. -/
structure NoDial (p q : Pool α) : Prop where
  nextId_le : p.nextId ≤ q.nextId
  waiting : ∀ t ∈ q.tasks, t.phase = .waiting →
    (∃ u ∈ p.tasks, u.id = t.id ∧ u.phase = .waiting) ∨ p.nextId ≤ t.id
  active : ∀ t ∈ q.tasks, t.isActive = true →
    ∃ u ∈ p.tasks, u.id = t.id ∧ u.destination = t.destination ∧ u.isActive = true

namespace NoDial

theorem refl (p : Pool α) : NoDial p p where
  nextId_le := Nat.le_refl _
  waiting t ht hphase := .inl ⟨t, ht, rfl, hphase⟩
  active t ht hactive := ⟨t, ht, rfl, rfl, hactive⟩

theorem trans (first : NoDial p q) (second : NoDial q r) : NoDial p r where
  nextId_le := Nat.le_trans first.nextId_le second.nextId_le
  waiting t ht hphase := by
    rcases second.waiting t ht hphase with ⟨u, hu, hid, huphase⟩ | hid
    · rw [← hid]
      exact first.waiting u hu huphase
    · exact .inr (Nat.le_trans first.nextId_le hid)
  active t ht hactive := by
    obtain ⟨u, hu, hid, hdestination, huactive⟩ := second.active t ht hactive
    rw [← hid, ← hdestination]
    exact first.active u hu huactive

theorem put (ht : t ∈ p.tasks) (hf : t'.Follows t)
    (hwaiting : t'.phase = .waiting → t.phase = .waiting)
    (hactive : t'.isActive = true → t.isActive = true) : NoDial p (p.put t') where
  nextId_le := Nat.le_refl _
  waiting u hu huphase := by
    rcases mem_put.1 hu with ⟨hu, -⟩ | ⟨rfl, -⟩
    · exact .inl ⟨u, hu, rfl, huphase⟩
    · exact .inl ⟨t, ht, hf.id_eq.symm, hwaiting huphase⟩
  active u hu huactive := by
    rcases mem_put.1 hu with ⟨hu, -⟩ | ⟨rfl, -⟩
    · exact ⟨u, hu, rfl, rfl, huactive⟩
    · exact ⟨t, ht, hf.id_eq.symm, hf.destination_eq.symm, hactive huactive⟩

theorem detach (p : Pool α) (t : Task α) : NoDial p (p.detach t) := by
  have hmem : ∀ u ∈ (p.detach t).tasks, u ∈ p.tasks := by
    intro u hu
    rw [← tasks_unlink p t.destination t.id]
    exact (mem_remove.1 hu).1
  refine ⟨Nat.le_of_eq (nextId_unlink p t.destination t.id).symm, fun u hu huphase => ?_,
    fun u hu huactive => ?_⟩
  · exact .inl ⟨u, hmem u hu, rfl, huphase⟩
  · exact ⟨u, hmem u hu, rfl, rfl, huactive⟩

end NoDial

/-- A new task waits. -/
theorem Lookup.noDial (hl : Lookup p destination q t) : NoDial p q := by
  cases hl with
  | found => exact .refl p
  | opened =>
      refine ⟨Nat.le_succ _, fun u hu huphase => ?_, fun u hu huactive => ?_⟩
      · rcases List.mem_append.1 hu with hu | hu
        · exact .inl ⟨u, hu, rfl, huphase⟩
        · obtain rfl := List.mem_singleton.1 hu
          exact .inr (Nat.le_refl _)
      · rcases List.mem_append.1 hu with hu | hu
        · exact ⟨u, hu, rfl, rfl, huactive⟩
        · obtain rfl := List.mem_singleton.1 hu
          simp [Task.isActive] at huactive

/-- What comes of an event without a dial: no task begins to dial, and all that is told is which
payloads were taken. -/
structure Quiet (p : Pool α) (result : Pool α × List (Outcome α)) : Prop where
  noDial : NoDial p result.1
  queued : ∀ outcome ∈ result.2, outcome.isQueued = true

namespace Orderly

theorem quiet_submit (h : Orderly p) (hopen : p.closed = false) (destination : Endpoint)
    (payload : α) : Quiet p (p.submit destination payload) := by
  obtain ⟨q, t, hl, hlookup⟩ := h.exists_lookup destination
  rw [hl.submit_eq h hopen hlookup]
  exact ⟨hl.noDial.trans (.put hl.mem_tasks (t.receive_follows payload) id id),
    by simp [Outcome.isQueued]⟩

theorem quiet_submitAll (h : Orderly p) (hopen : p.closed = false) (destination : Endpoint)
    (payloads : List α) : Quiet p (p.submitAll destination payloads) := by
  induction payloads generalizing p with
  | nil => exact ⟨.refl p, by simp [submitAll]⟩
  | cons payload payloads ih =>
      have hchanges := h.submit_changes destination payload
      have hfirst := h.quiet_submit hopen destination payload
      have hothers := ih (h.changes hchanges) (hchanges.closed_eq.trans hopen)
      refine ⟨hfirst.noDial.trans hothers.noDial, fun outcome houtcome => ?_⟩
      rcases List.mem_append.1 houtcome with houtcome | houtcome
      · exact hfirst.queued outcome houtcome
      · exact hothers.queued outcome houtcome

theorem quiet_evict (h : Orderly p) (hopen : p.closed = false) (ht : t ∈ p.tasks)
    (hphase : t.phase = .ending) : Quiet p (p.evict t.id) := by
  have hdetach := h.detach_changes ht hphase
  have hothers := (h.changes hdetach).quiet_submitAll (hdetach.closed_eq.trans hopen)
    t.destination t.queue
  rw [h.evict_eq ht, hopen, if_neg Bool.false_ne_true]
  exact ⟨(NoDial.detach p t).trans hothers.noDial, hothers.queued⟩

end Orderly

/-! ### Dials -/

/-- The destination of a dial, if the outcome is that a slot begins to dial. -/
def Outcome.dialOf? (slot : Nat) : Outcome α → Option Endpoint
  | .dialed destination slot' _ => if slot' = slot then some destination else none
  | _ => none

/-- The destinations that a slot dialed, in order. -/
def dials (slot : Nat) (outcomes : List (Outcome α)) : List Endpoint :=
  outcomes.filterMap (Outcome.dialOf? slot)

theorem dials_append (slot : Nat) (outcomes others : List (Outcome α)) :
    dials slot (outcomes ++ others) = dials slot outcomes ++ dials slot others :=
  List.filterMap_append

/-- After the outcomes, the pool's tasks have dialed as they should: a task that waits has not, one
that dials or has a connection has dialed its destination.  No slot has dialed more than once, and
none that does not exist yet; and a payload was written only for a slot that dialed the payload's
destination. -/
structure Logged (p : Pool α) (outcomes : List (Outcome α)) : Prop where
  waiting : ∀ t ∈ p.tasks, t.phase = .waiting → dials t.id outcomes = []
  active : ∀ t ∈ p.tasks, t.isActive = true → dials t.id outcomes = [t.destination]
  fresh : ∀ slot, p.nextId ≤ slot → dials slot outcomes = []
  length_le : ∀ slot, (dials slot outcomes).length ≤ 1
  written : ∀ d slot a, Outcome.written d slot a ∈ outcomes → dials slot outcomes = [d]

theorem logged_empty : Logged ({} : Pool α) [] where
  waiting := by simp
  active := by simp
  fresh _ _ := rfl
  length_le _ := Nat.zero_le 1
  written := by simp

namespace Logged

/-- Without a dial, what is written goes to what was dialed before. -/
theorem keep (h : Logged p outcomes) (hq : NoDial p q) (hdials : ∀ slot, dials slot others = [])
    (hwritten : ∀ d slot a, Outcome.written d slot a ∈ others →
      ∃ t ∈ p.tasks, t.id = slot ∧ t.destination = d ∧ t.isActive = true) :
    Logged q (outcomes ++ others) := by
  have hdials : ∀ slot, dials slot (outcomes ++ others) = dials slot outcomes := by
    intro slot
    rw [dials_append, hdials, List.append_nil]
  refine ⟨fun t ht hphase => ?_, fun t ht hactive => ?_, fun slot hslot => ?_, fun slot => ?_,
    fun d slot a hmem => ?_⟩
  · rw [hdials]
    rcases hq.waiting t ht hphase with ⟨u, hu, hid, huphase⟩ | hid
    · rw [← hid]
      exact h.waiting u hu huphase
    · exact h.fresh t.id hid
  · rw [hdials]
    obtain ⟨u, hu, hid, hdestination, huactive⟩ := hq.active t ht hactive
    rw [← hid, ← hdestination]
    exact h.active u hu huactive
  · rw [hdials]
    exact h.fresh slot (Nat.le_trans hq.nextId_le hslot)
  · rw [hdials]
    exact h.length_le slot
  · rw [hdials]
    rcases List.mem_append.1 hmem with hmem | hmem
    · exact h.written d slot a hmem
    · obtain ⟨t, ht, rfl, rfl, hactive⟩ := hwritten d slot a hmem
      exact h.active t ht hactive

/-- Submissions are neither dials nor writes. -/
theorem keep_quiet (h : Logged p outcomes) (hq : Quiet p (q, others)) :
    Logged q (outcomes ++ others) := by
  refine h.keep hq.noDial (fun slot => ?_) fun d slot a hmem => ?_
  · rw [dials, List.filterMap_eq_nil_iff]
    intro outcome hmem
    obtain ⟨d, slot', a, rfl⟩ := Outcome.exists_of_isQueued (hq.queued outcome hmem)
    rfl
  · exact absurd (hq.queued _ hmem) (by simp [Outcome.isQueued])

/-- A task begins to dial. -/
theorem dial (h : Logged p outcomes) (hp : Orderly p) (ht : t ∈ p.tasks)
    (hphase : t.phase = .waiting) (hf : t'.Follows t) (hactive : t'.isActive = true)
    (payload : α) :
    Logged (p.put t') (outcomes ++ [.dialed t.destination t.id payload]) := by
  -- the slot of the task dials for the first time, and no other slot dials
  have hself : dials t.id (outcomes ++ [.dialed t.destination t.id payload]) = [t.destination] := by
    rw [dials_append, h.waiting t ht hphase]
    simp [dials, Outcome.dialOf?]
  have hother : ∀ slot, slot ≠ t.id →
      dials slot (outcomes ++ [.dialed t.destination t.id payload]) = dials slot outcomes := by
    intro slot hne
    rw [dials_append]
    simp [dials, Outcome.dialOf?, hne.symm]
  refine ⟨fun u hu huphase => ?_, fun u hu huactive => ?_, fun slot hslot => ?_, fun slot => ?_,
    fun d slot a hmem => ?_⟩
  · rcases mem_put.1 hu with ⟨hu, hne⟩ | ⟨rfl, -⟩
    · rw [hother _ (hf.id_eq ▸ hne)]
      exact h.waiting u hu huphase
    · simp [Task.isActive, huphase] at hactive
  · rcases mem_put.1 hu with ⟨hu, hne⟩ | ⟨rfl, -⟩
    · rw [hother _ (hf.id_eq ▸ hne)]
      exact h.active u hu huactive
    · rw [hf.id_eq, hself, hf.destination_eq]
  · rw [hother _ (Nat.ne_of_gt (Nat.lt_of_lt_of_le (hp.id_lt t ht) hslot))]
    exact h.fresh slot hslot
  · by_cases hslot : slot = t.id
    · rw [hslot, hself]
      exact Nat.le_refl 1
    · rw [hother slot hslot]
      exact h.length_le slot
  · have hwritten := h.written d slot a (by simpa using hmem)
    rw [hother, hwritten]
    rintro rfl
    rw [h.waiting t ht hphase] at hwritten
    exact absurd hwritten (by simp)

theorem move (h : Logged p outcomes) (hp : Orderly p) (ht : t ∈ p.tasks)
    (hm : Move t event t' others) : Logged (p.put t') (outcomes ++ others) := by
  have hf := hm.follows
  cases hm with
  | dial first rest hphase => exact h.dial hp ht hphase hf rfl first
  | connect first hphase =>
      have hactive : t.isActive = true := by rw [Task.isActive, hphase]
      refine h.keep (.put ht hf (by simp) fun _ => hactive) (fun _ => rfl) fun d slot a hmem => ?_
      obtain ⟨rfl, rfl, -⟩ := by simpa using hmem
      exact ⟨t, ht, rfl, rfl, hactive⟩
  | write first rest hphase =>
      have hactive : t.isActive = true := by rw [Task.isActive, hphase]
      refine h.keep (.put ht hf id id) (fun _ => rfl) fun d slot a hmem => ?_
      obtain ⟨rfl, rfl, -⟩ := by simpa using hmem
      exact ⟨t, ht, rfl, rfl, hactive⟩
  | _ =>
      -- the task comes to its end
      exact h.keep (.put ht hf (by simp) (by simp [Task.isActive])) (fun _ => rfl) (by simp)

end Logged

theorem Transition.logged {result : Pool α × List (Outcome α)}
    (htransition : Transition p event result) (h : Orderly p) (hopen : p.closed = false)
    (hlogged : Logged p outcomes) (hevent : event ≠ .close) :
    Logged result.1 (outcomes ++ result.2) := by
  cases htransition with
  | submitted destination payload =>
      exact hlogged.keep_quiet (h.quiet_submit hopen destination payload)
  | moved t t' ht hmove => exact hlogged.move h ht hmove
  | evicted t ht hphase => exact hlogged.keep_quiet (h.quiet_evict hopen ht hphase)
  | closed => exact absurd rfl hevent
  | ignored => rwa [List.append_nil]

/-- **A slot dials at most once, and what is written goes to what it dialed**, as long as the pool
is open. -/
theorem Logged.run (hlogged : Logged p outcomes) (h : Tidy p) {events : List (Event α)}
    (hevents : Event.close ∉ events) : Logged (p.run events).1 (outcomes ++ (p.run events).2) := by
  induction events generalizing p outcomes with
  | nil => rwa [run_nil, List.append_nil]
  | cons event events ih =>
      have hevent := (List.ne_of_not_mem_cons hevents).symm
      have hfirst := (h.transition event).logged h.toOrderly h.isOpen hlogged hevent
      have hothers := ih hfirst (h.step hevent) (List.not_mem_of_not_mem_cons hevents)
      rwa [List.append_assoc] at hothers

/-! ### Runs without shutdown -/

/-- Whether a task has a connection or has come to its end. -/
def Task.hasDialed (t : Task α) : Bool :=
  match t.phase with
  | .connected | .ending => true
  | .waiting | .dialing _ => false

/-- Whether an event can happen in a pool that is neither closed nor told to shut down: a task ends
only after its dial. -/
def allows (p : Pool α) : Event α → Bool
  | .close => false
  | .finish id => (p.task? id).all Task.hasDialed
  | _ => true

/-- Whether a pool is neither closed nor told to shut down while events happen. -/
def undisturbed (p : Pool α) : List (Event α) → Bool
  | [] => true
  | event :: events => p.allows event && (p.step event).1.undisturbed events

/-- Whether a dial or a write failed for the payload. -/
def Outcome.isLost : Outcome α → Bool
  | .undialed .. | .unwritten .. => true
  | _ => false

theorem close_not_mem_of_undisturbed {events : List (Event α)}
    (h : p.undisturbed events = true) : Event.close ∉ events := by
  induction events generalizing p with
  | nil => exact List.not_mem_nil
  | cons event events ih =>
      obtain ⟨hevent, hevents⟩ := Bool.and_eq_true_iff.1 h
      rw [List.mem_cons, not_or]
      refine ⟨?_, ih hevents⟩
      rintro rfl
      simp [allows] at hevent

/-- An outcome that is not about a submission comes from a move of a task. -/
theorem Transition.exists_move {result : Pool α × List (Outcome α)}
    (htransition : Transition p event result) (h : Orderly p) (hopen : p.closed = false)
    {outcome : Outcome α} (hmem : outcome ∈ result.2) (hqueued : outcome.isQueued = false) :
    ∃ t ∈ p.tasks, ∃ t' moved, Move t event t' moved ∧ outcome ∈ moved := by
  cases htransition with
  | submitted destination payload =>
      rw [(h.quiet_submit hopen destination payload).queued outcome hmem] at hqueued
      exact absurd hqueued (by simp)
  | moved t t' ht hmove => exact ⟨t, ht, t', _, hmove, hmem⟩
  | evicted t ht hphase =>
      rw [(h.quiet_evict hopen ht hphase).queued outcome hmem] at hqueued
      exact absurd hqueued (by simp)
  | closed | ignored => simp at hmem

/-- What becomes of a payload that is not about to be submitted is what a move of a task makes of
it. -/
theorem Tidy.mem_step_iff (h : Tidy p) {outcome : Outcome α} (hqueued : outcome.isQueued = false) :
    outcome ∈ (p.step event).2 ↔
      ∃ t ∈ p.tasks, ∃ t' moved, Move t event t' moved ∧ outcome ∈ moved := by
  constructor
  · exact fun hmem => (h.transition event).exists_move h.toOrderly h.isOpen hmem hqueued
  · rintro ⟨t, ht, t', moved, hmove, hmem⟩
    rwa [h.step_eq_of_move ht hmove]

/-- An event ends an attempt to write a payload, which is the first one of a new connection or the
next one in the queue; `wrote` is whether the payload was written in full. -/
inductive Task.Attempts (t : Task α) (payload : α) (wrote : Bool) : Event α → Prop where
  | first (hphase : t.phase = .dialing payload) : t.Attempts payload wrote (.dialed t.id wrote)
  | next (rest : List α) (hphase : t.phase = .connected) (hqueue : t.queue = payload :: rest) :
      t.Attempts payload wrote (.write t.id wrote)

/-- A payload is written when an attempt to write it succeeds. -/
theorem Move.written_iff : (∃ t' moved, Move t event t' moved ∧ .written d slot payload ∈ moved) ↔
    t.id = slot ∧ t.destination = d ∧ t.Attempts payload true event := by
  constructor
  · rintro ⟨t', moved, hmove, hmem⟩
    cases hmove with
    | connect first hphase =>
        obtain ⟨rfl, rfl, rfl⟩ := by simpa using hmem
        exact ⟨rfl, rfl, .first hphase⟩
    | write first rest hphase hqueue =>
        obtain ⟨rfl, rfl, rfl⟩ := by simpa using hmem
        exact ⟨rfl, rfl, .next rest hphase hqueue⟩
    | _ => simp at hmem
  · rintro ⟨rfl, rfl, hphase | ⟨rest, hphase, hqueue⟩⟩
    · exact ⟨_, _, .connect payload hphase, List.mem_singleton_self _⟩
    · exact ⟨_, _, .write payload rest hphase hqueue, List.mem_singleton_self _⟩

/-- A payload is lost with a write when an attempt to write it fails. -/
theorem Move.unwritten_iff :
    (∃ t' moved, Move t event t' moved ∧ .unwritten d slot payload ∈ moved) ↔
      t.id = slot ∧ t.destination = d ∧ t.Attempts payload false event := by
  constructor
  · rintro ⟨t', moved, hmove, hmem⟩
    cases hmove with
    | breakOff first hphase =>
        obtain ⟨rfl, rfl, rfl⟩ := by simpa using hmem
        exact ⟨rfl, rfl, .first hphase⟩
    | lose first rest hphase hqueue =>
        obtain ⟨rfl, rfl, rfl⟩ := by simpa using hmem
        exact ⟨rfl, rfl, .next rest hphase hqueue⟩
    | _ => simp at hmem
  · rintro ⟨rfl, rfl, hphase | ⟨rest, hphase, hqueue⟩⟩
    · exact ⟨_, _, .breakOff payload hphase, List.mem_singleton_self _⟩
    · exact ⟨_, _, .lose payload rest hphase hqueue, List.mem_singleton_self _⟩

/-- A payload is lost with a dial when the dial for which it is held fails. -/
theorem Move.undialed_iff :
    (∃ t' moved, Move t event t' moved ∧ .undialed d slot payload ∈ moved) ↔
      t.id = slot ∧ t.destination = d ∧ t.phase = .dialing payload ∧ event = .undialed slot := by
  constructor
  · rintro ⟨t', moved, hmove, hmem⟩
    cases hmove with
    | giveUp first hphase =>
        obtain ⟨rfl, rfl, rfl⟩ := by simpa using hmem
        exact ⟨rfl, rfl, hphase, rfl⟩
    | _ => simp at hmem
  · rintro ⟨rfl, rfl, hphase, rfl⟩
    exact ⟨_, _, .giveUp payload hphase, List.mem_singleton_self _⟩

namespace Tidy

/-- Without a shutdown, a payload of which nothing more becomes was written or is lost with a dial
or a write. -/
theorem isWritten_or_isLost_step (h : Tidy p) (hevent : p.allows event = true)
    {outcome : Outcome α} (hmem : outcome ∈ (p.step event).2) (hfinal : outcome.isFinal = true) :
    outcome.isWritten = true ∨ outcome.isLost = true := by
  have hqueued : outcome.isQueued = false := by
    cases outcome <;> simp_all [Outcome.isFinal, Outcome.isQueued]
  obtain ⟨t, ht, t', moved, hmove, hmem⟩ := (h.mem_step_iff hqueued).1 hmem
  cases hmove with
  | abandon first hphase =>
      -- only a task that is told to shut down ends before its dial does
      rw [allows, h.task?_eq_some_iff.2 ⟨ht, rfl⟩] at hevent
      simp [Task.hasDialed, hphase] at hevent
  | finish => simp at hmem
  | dial =>
      obtain rfl := List.mem_singleton.1 hmem
      simp [Outcome.isFinal] at hfinal
  | connect | write => exact .inl (by rw [List.mem_singleton.1 hmem, Outcome.isWritten])
  | breakOff | giveUp | lose => exact .inr (by rw [List.mem_singleton.1 hmem, Outcome.isLost])

theorem isWritten_or_isLost_run (h : Tidy p) {events : List (Event α)}
    (hevents : p.undisturbed events = true) {outcome : Outcome α}
    (hmem : outcome ∈ (p.run events).2) (hfinal : outcome.isFinal = true) :
    outcome.isWritten = true ∨ outcome.isLost = true := by
  induction events generalizing p with
  | nil => simp at hmem
  | cons event events ih =>
      have hclose := List.ne_of_not_mem_cons (close_not_mem_of_undisturbed hevents)
      obtain ⟨hevent, hevents⟩ := Bool.and_eq_true_iff.1 hevents
      rcases List.mem_append.1 hmem with hmem | hmem
      · exact h.isWritten_or_isLost_step hevent hmem hfinal
      · exact ih (h.step hclose.symm) hevents hmem

end Tidy

/-! ### Main result -/

/-- **Nothing is lost or duplicated** but by a dial or a write that fails, in a pool that is neither
closed nor told to shut down.  The payloads that were submitted for a destination are, one after the
other, those of which nothing more becomes, the one that is held for a dial, and those in the queue
of the destination's slot; and there are no tasks but those of slots in the map.  Those of which
nothing more becomes were written or are lost, and the ones that were written are submitted ones, in
order, each written for a slot that dialed their destination and nothing else.  A payload is written
or lost with the event that ends the attempt to write it, or lost with the dial for which it is
held. -/
theorem every_payload_in_one_place (events : List (Event α))
    (hevents : ({} : Pool α).undisturbed events = true) :
    let p := (({} : Pool α).run events).1
    let outcomes := (({} : Pool α).run events).2
    (∀ d, submitted d events = settled d outcomes ++ (p.held d ++ p.queued d)) ∧
      (∀ t ∈ p.tasks, p.slots.get? t.destination = some t.id ∧ p.taskOf? t.destination = some t) ∧
      (∀ outcome ∈ outcomes, outcome.isFinal = true →
        outcome.isWritten = true ∨ outcome.isLost = true) ∧
      (∀ d, (written d outcomes).Sublist (submitted d events)) ∧
      (∀ d slot a, .written d slot a ∈ outcomes → dials slot outcomes = [d]) ∧
      ∀ event d slot a,
        (.written d slot a ∈ (p.step event).2 ↔
          ∃ t ∈ p.tasks, t.id = slot ∧ t.destination = d ∧ t.Attempts a true event) ∧
        (.unwritten d slot a ∈ (p.step event).2 ↔
          ∃ t ∈ p.tasks, t.id = slot ∧ t.destination = d ∧ t.Attempts a false event) ∧
        (.undialed d slot a ∈ (p.step event).2 ↔
          ∃ t ∈ p.tasks, t.id = slot ∧ t.destination = d ∧ t.phase = .dialing a ∧
            event = .undialed slot) := by
  intro p outcomes
  have hclose : Event.close ∉ events := close_not_mem_of_undisturbed hevents
  have hp : Tidy p := tidy_empty.run hclose
  have hlogged : Logged p outcomes := logged_empty.run tidy_empty hclose
  have hbalance : ∀ d, submitted d events = settled d outcomes ++ p.backlog d :=
    fun d => tidy_empty.run_balance hclose d
  refine ⟨fun d => ?_, fun t ht => ?_, fun outcome => ?_, fun d => ?_, hlogged.written,
    fun event d slot a => ?_⟩
  · rw [hbalance, backlog_eq]
  · exact ⟨hp.current t ht, hp.taskOf?_eq_some_iff.2 ⟨ht, rfl⟩⟩
  · exact tidy_empty.isWritten_or_isLost_run hevents
  · rw [hbalance]
    exact (written_sublist_settled d outcomes).trans (List.sublist_append_left _ _)
  · rw [hp.mem_step_iff rfl, hp.mem_step_iff rfl, hp.mem_step_iff rfl]
    simp only [Move.written_iff, Move.unwritten_iff, Move.undialed_iff, and_self]

/-- A dial fails with a payload behind, a write fails, a third slot dials for what came in between,
and another destination is served meanwhile. -/
theorem every_payload_in_one_place_after_failures :
    let other : Endpoint := .v4 .unspecified 1
    let events : List (Event Nat) :=
      [.submit .unbound 10, .submit .unbound 11, .submit other 20, .dial 1, .undialed 1, .evict 1,
        .submit .unbound 12, .dial 2, .dial 3, .dialed 3 true, .dialed 2 true, .write 3 false,
        .submit .unbound 13, .submit .unbound 14, .evict 3, .dial 4]
    let p := (({} : Pool Nat).run events).1
    let outcomes := (({} : Pool Nat).run events).2
    ({} : Pool Nat).undisturbed events = true ∧
      settled .unbound outcomes = [10, 11, 12] ∧ p.held .unbound = [13] ∧
      p.queued .unbound = [14] ∧ submitted .unbound events = [10, 11, 12] ++ ([13] ++ [14]) ∧
      written .unbound outcomes = [11] ∧ ([11] : List Nat).Sublist (submitted .unbound events) ∧
      dials 3 outcomes = [.unbound] ∧ dials 2 outcomes = [other] ∧
      .undialed .unbound 4 13 ∈ (p.step (.undialed 4)).2 := by
  intro other events p outcomes
  have hevents : ({} : Pool Nat).undisturbed events = true := by decide
  have hsettled : settled .unbound outcomes = [10, 11, 12] := by decide
  have hheld : p.held .unbound = [13] := by decide
  have hqueued : p.queued .unbound = [14] := by decide
  have hwritten : written .unbound outcomes = [11] := by decide
  let dialing : Task Nat :=
    { id := 4, destination := .unbound, queue := [14], phase := .dialing 13 }
  have htask : dialing ∈ p.tasks := by decide
  obtain ⟨hplaces, -, -, hsublist, hdials, hstep⟩ := every_payload_in_one_place events hevents
  have hsubmitted : submitted .unbound events =
      settled .unbound outcomes ++ (p.held .unbound ++ p.queued .unbound) := hplaces .unbound
  have hlost : .undialed .unbound 4 13 ∈ (p.step (.undialed 4)).2 :=
    (hstep (.undialed 4) .unbound 4 13).2.2.2 ⟨dialing, htask, rfl, rfl, rfl, rfl⟩
  rw [hsettled, hheld, hqueued] at hsubmitted
  refine ⟨hevents, hsettled, hheld, hqueued, hsubmitted, hwritten, ?_, ?_, ?_, hlost⟩
  · rw [← hwritten]
    exact hsublist .unbound
  · exact hdials .unbound 3 11 (by decide)
  · exact hdials other 2 20 (by decide)

end Pool

end Framewire
