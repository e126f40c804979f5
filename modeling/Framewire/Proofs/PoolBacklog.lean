/-
**The backlog of a destination.**

When an eviction is one step, the task of a slot leaves together with its slot, so a destination has
a task exactly if it has a slot.  The payloads that wait for the destination are then the one that
its task holds while it dials, and behind it those of the task's queue.  No payload leaves this
backlog unless something final becomes of it, and always at the front; what is submitted comes in at
the back.  An eviction leaves the backlog as it is.

Main definitions:

* `Pool.Tidy` — the pool is open, and every task has its slot in the map;
* `Pool.held`, `Pool.queued`, `Pool.backlog` — what waits for a destination;
* `Pool.submitted`, `Pool.settled` — the payloads that events submit for a destination, and the ones
  that outcomes let go.

Main results:

* `Pool.Tidy.run` — an open pool stays tidy until it is closed;
* `Pool.Tidy.step_balance`, `Pool.Tidy.run_balance` — **what waited and what was submitted is what
  was let go and what waits**, in this order.
-/

import Framewire.Proofs.PoolChanges

set_option autoImplicit false

namespace Framewire

namespace Pool

variable {α : Type}

/-! ### Outcomes -/

namespace Outcome

/-- The payload that an outcome is about. -/
def payload : Outcome α → α
  | .queued _ _ a | .refused _ a | .dialed _ _ a | .written _ _ a | .undialed _ _ a
  | .unwritten _ _ a | .abandoned _ _ a => a

/-- The destination of that payload. -/
def destination : Outcome α → Endpoint
  | .queued d _ _ | .refused d _ | .dialed d _ _ | .written d _ _ | .undialed d _ _
  | .unwritten d _ _ | .abandoned d _ _ => d

/-- Whether the pool took the payload. -/
def isQueued : Outcome α → Bool
  | .queued .. => true
  | _ => false

/-- Whether the payload was written in full. -/
def isWritten : Outcome α → Bool
  | .written .. => true
  | _ => false

/-- Whether nothing more becomes of the payload. -/
def isFinal : Outcome α → Bool
  | .queued .. | .dialed .. => false
  | .refused .. | .written .. | .undialed .. | .unwritten .. | .abandoned .. => true

theorem exists_of_isQueued {outcome : Outcome α} (h : outcome.isQueued = true) :
    ∃ d slot a, outcome = .queued d slot a := by
  cases outcome with
  | queued d slot a => exact ⟨d, slot, a, rfl⟩
  | _ => exact absurd h Bool.false_ne_true

end Outcome

variable {p q : Pool α} {t t' u : Task α} {event : Event α} {outcomes : List (Outcome α)}
  {destination d : Endpoint}

/-! ### Tidy pools -/

/-- An open pool in which the slot of every task is in the map. -/
structure Tidy (p : Pool α) : Prop extends Orderly p where
  isOpen : p.closed = false
  current : ∀ t ∈ p.tasks, p.slots.get? t.destination = some t.id

theorem tidy_empty : Tidy ({} : Pool α) where
  toOrderly := orderly_empty
  isOpen := rfl
  current := by simp

/-- The task of the slot of a destination. -/
def taskOf? (p : Pool α) (destination : Endpoint) : Option (Task α) :=
  (p.slots.get? destination).bind p.task?

namespace Tidy

/-- A task is known by its destination. -/
theorem eq_of_destination (h : Tidy p) (ht : t ∈ p.tasks) (hu : u ∈ p.tasks)
    (hdestination : t.destination = u.destination) : t = u := by
  have hget := h.current t ht
  rw [hdestination, h.current u hu, Option.some.injEq] at hget
  exact h.eq_of_id ht hu hget.symm

theorem taskOf?_eq_some_iff (h : Tidy p) :
    p.taskOf? d = some t ↔ t ∈ p.tasks ∧ t.destination = d := by
  constructor
  · intro ht
    obtain ⟨id, hget, htask⟩ := Option.bind_eq_some_iff.1 ht
    obtain ⟨u, hu, rfl, hd⟩ := h.task_of_slot d id hget
    obtain ⟨hmem, hid⟩ := h.task?_eq_some_iff.1 htask
    obtain rfl := h.eq_of_id hu hmem hid.symm
    exact ⟨hu, hd⟩
  · rintro ⟨ht, rfl⟩
    rw [taskOf?, h.current t ht, Option.bind_some, h.task?_eq_some_iff]
    exact ⟨ht, rfl⟩

/-- A task moves on. -/
theorem put (h : Tidy p) (ht : t ∈ p.tasks) (hf : t'.Follows t) : Tidy (p.put t') where
  toOrderly := h.toOrderly.put ht hf
  isOpen := h.isOpen
  current u hu := by
    rcases mem_put.1 hu with ⟨hu, -⟩ | ⟨rfl, -⟩
    · exact h.current u hu
    · rw [hf.destination_eq, hf.id_eq]
      exact h.current t ht

theorem taskOf?_put (h : Tidy p) (ht : t ∈ p.tasks) (hf : t'.Follows t) :
    (p.put t').taskOf? d = if t.destination = d then some t' else p.taskOf? d := by
  have hmem : t' ∈ (p.put t').tasks := mem_put.2 (.inr ⟨rfl, t, ht, hf.id_eq.symm⟩)
  split
  · next hd => exact (h.put ht hf).taskOf?_eq_some_iff.2 ⟨hmem, hf.destination_eq.trans hd⟩
  · next hd =>
    ext u
    rw [(h.put ht hf).taskOf?_eq_some_iff, h.taskOf?_eq_some_iff, mem_put]
    constructor
    · rintro ⟨⟨hu, -⟩ | ⟨rfl, -⟩, hud⟩
      · exact ⟨hu, hud⟩
      · exact absurd (hf.destination_eq.symm.trans hud) hd
    · rintro ⟨hu, rfl⟩
      refine ⟨.inl ⟨hu, fun hid => hd ?_⟩, rfl⟩
      rw [h.eq_of_id hu ht (hid.trans hf.id_eq)]

/-- A destination gets a slot that had none. -/
theorem openSlot (h : Tidy p) (hslot : p.slots.get? destination = none) :
    Tidy (p.openSlot destination) where
  toOrderly := h.toOrderly.openSlot hslot
  isOpen := h.isOpen
  current u hu := by
    simp only [Pool.openSlot, Directory.get?_insert]
    rcases List.mem_append.1 hu with hu | hu
    · have hget := h.current u hu
      rw [if_neg, hget]
      rintro rfl
      rw [hslot] at hget
      exact absurd hget (by simp)
    · obtain rfl := List.mem_singleton.1 hu
      rw [if_pos rfl]

theorem taskOf?_openSlot (h : Tidy p) (hslot : p.slots.get? destination = none) :
    (p.openSlot destination).taskOf? d =
      if destination = d then some (p.newTask destination) else p.taskOf? d := by
  have hq := h.openSlot hslot
  split
  · next hd =>
    refine hq.taskOf?_eq_some_iff.2 ⟨?_, hd⟩
    exact List.mem_append_right _ (List.mem_singleton_self _)
  · next hd =>
    ext u
    rw [hq.taskOf?_eq_some_iff, h.taskOf?_eq_some_iff]
    simp only [Pool.openSlot, List.mem_append, List.mem_singleton]
    constructor
    · rintro ⟨hu | rfl, hud⟩
      · exact ⟨hu, hud⟩
      · exact absurd hud hd
    · exact fun hu => ⟨.inl hu.1, hu.2⟩

/-- A task that has come to its end leaves with its slot. -/
theorem detach (h : Tidy p) (ht : t ∈ p.tasks) (hphase : t.phase = .ending) :
    Tidy (p.detach t) where
  toOrderly := h.changes (h.detach_changes ht hphase)
  isOpen := (closed_detach p t).trans h.isOpen
  current u hu := by
    obtain ⟨hu, hne⟩ := mem_remove.1 hu
    rw [tasks_unlink] at hu
    refine (get?_unlink p t.destination u.destination t.id).trans ?_
    rw [if_neg, h.current u hu]
    -- a destination has one task, so the slot that leaves is not that of another task
    rintro ⟨-, hdestination⟩
    exact hne (by rw [h.eq_of_destination hu ht hdestination])

theorem taskOf?_detach (h : Tidy p) (ht : t ∈ p.tasks) (hphase : t.phase = .ending) :
    (p.detach t).taskOf? d = if t.destination = d then none else p.taskOf? d := by
  ext u
  rw [(h.detach ht hphase).taskOf?_eq_some_iff, Pool.detach, mem_remove, tasks_unlink]
  split
  · next hd =>
    refine iff_of_false ?_ (by simp)
    rintro ⟨⟨hu, hne⟩, rfl⟩
    exact hne (by rw [h.eq_of_destination ht hu hd])
  · next hd =>
    rw [h.taskOf?_eq_some_iff]
    constructor
    · rintro ⟨⟨hu, -⟩, hud⟩
      exact ⟨hu, hud⟩
    · rintro ⟨hu, rfl⟩
      exact ⟨⟨hu, fun hid => hd (by rw [h.eq_of_id hu ht hid])⟩, rfl⟩

end Tidy

/-! ### Backlogs -/

/-- The payload that a task holds while it dials. -/
def Task.held (t : Task α) : List α :=
  match t.phase with
  | .dialing first => [first]
  | .waiting | .connected | .ending => []

/-- The payloads that wait with a task, in the order in which it writes them. -/
def Task.backlog (t : Task α) : List α := t.held ++ t.queue

/-- The payload that the task of a destination's slot holds while it dials. -/
def held (p : Pool α) (destination : Endpoint) : List α :=
  (p.taskOf? destination).elim [] Task.held

/-- The queue of a destination's slot. -/
def queued (p : Pool α) (destination : Endpoint) : List α :=
  (p.taskOf? destination).elim [] Task.queue

/-- The payloads that wait for a destination. -/
def backlog (p : Pool α) (destination : Endpoint) : List α :=
  (p.taskOf? destination).elim [] Task.backlog

theorem backlog_eq (p : Pool α) (destination : Endpoint) :
    p.backlog destination = p.held destination ++ p.queued destination := by
  rw [backlog, held, queued]
  cases p.taskOf? destination <;> rfl

theorem Task.backlog_receive (t : Task α) (payload : α) :
    (t.receive payload).backlog = t.backlog ++ [payload] :=
  (List.append_assoc t.held t.queue [payload]).symm

/-- A task that has come to its end holds nothing. -/
theorem Task.backlog_of_ending (hphase : t.phase = .ending) : t.backlog = t.queue := by
  rw [Task.backlog, Task.held, hphase]
  rfl

namespace Tidy

theorem backlog_of_mem (h : Tidy p) (ht : t ∈ p.tasks) : p.backlog t.destination = t.backlog := by
  rw [backlog, h.taskOf?_eq_some_iff.2 ⟨ht, rfl⟩]
  rfl

theorem backlog_put (h : Tidy p) (ht : t ∈ p.tasks) (hf : t'.Follows t) :
    (p.put t').backlog d = if t.destination = d then t'.backlog else p.backlog d := by
  rw [backlog, h.taskOf?_put ht hf]
  split <;> rfl

/-- Nothing waits with a new slot. -/
theorem backlog_openSlot (h : Tidy p) (hslot : p.slots.get? destination = none) :
    (p.openSlot destination).backlog d = p.backlog d := by
  rw [backlog, h.taskOf?_openSlot hslot]
  split
  · next hd =>
    rw [backlog, taskOf?, ← hd, hslot]
    rfl
  · rfl

theorem backlog_detach (h : Tidy p) (ht : t ∈ p.tasks) (hphase : t.phase = .ending) :
    (p.detach t).backlog d = if t.destination = d then [] else p.backlog d := by
  rw [backlog, h.taskOf?_detach ht hphase]
  split <;> rfl

end Tidy

/-! ### Submissions and evictions -/

theorem Lookup.tidy (hl : Lookup p destination q t) (h : Tidy p) : Tidy q := by
  cases hl with
  | found => exact h
  | opened hslot => exact h.openSlot hslot

theorem Lookup.backlog_eq (hl : Lookup p destination q t) (h : Tidy p) :
    q.backlog d = p.backlog d := by
  cases hl with
  | found => rfl
  | opened hslot => exact h.backlog_openSlot hslot

/-- What a submission does: the payload comes in at the back of its destination's backlog. -/
structure Submission (p : Pool α) (destination : Endpoint) (payloads : List α)
    (result : Pool α × List (Outcome α)) : Prop where
  tidy : Tidy result.1
  backlog_eq : ∀ d, result.1.backlog d = p.backlog d ++ if destination = d then payloads else []
  queued : ∀ outcome ∈ result.2, outcome.isQueued = true

namespace Tidy

theorem submission (h : Tidy p) (destination : Endpoint) (payload : α) :
    Submission p destination [payload] (p.submit destination payload) := by
  obtain ⟨q, t, hl, hlookup⟩ := h.exists_lookup destination
  have hq : Tidy q := hl.tidy h
  have hf := t.receive_follows payload
  rw [hl.submit_eq h.toOrderly h.isOpen hlookup]
  refine ⟨hq.put hl.mem_tasks hf, fun d => ?_, by simp [Outcome.isQueued]⟩
  rw [hq.backlog_put hl.mem_tasks hf, hl.destination_eq]
  split
  · next hd =>
    rw [Task.backlog_receive, ← hq.backlog_of_mem hl.mem_tasks, hl.destination_eq,
      hl.backlog_eq h, hd]
  · rw [hl.backlog_eq h, List.append_nil]

theorem submissions (h : Tidy p) (destination : Endpoint) (payloads : List α) :
    Submission p destination payloads (p.submitAll destination payloads) := by
  induction payloads generalizing p with
  | nil => exact ⟨h, fun d => by simp [submitAll], by simp [submitAll]⟩
  | cons payload payloads ih =>
      have hfirst := h.submission destination payload
      have hothers := ih hfirst.tidy
      refine ⟨hothers.tidy, fun d => ?_, fun outcome houtcome => ?_⟩
      · refine (hothers.backlog_eq d).trans ?_
        rw [hfirst.backlog_eq, List.append_assoc]
        split <;> rfl
      · rcases List.mem_append.1 houtcome with houtcome | houtcome
        · exact hfirst.queued outcome houtcome
        · exact hothers.queued outcome houtcome

/-- **An eviction leaves every backlog as it is.** -/
theorem eviction (h : Tidy p) (ht : t ∈ p.tasks) (hphase : t.phase = .ending) :
    Submission p t.destination [] (p.evict t.id) := by
  have hresubmitted := (h.detach ht hphase).submissions t.destination t.queue
  rw [h.evict_eq ht, h.isOpen, if_neg Bool.false_ne_true]
  -- the backlog is gone with the task, and the submissions bring it back as it was
  refine ⟨hresubmitted.tidy, fun d => ?_, hresubmitted.queued⟩
  rw [hresubmitted.backlog_eq, h.backlog_detach ht hphase, ite_self, List.append_nil]
  split
  · next hd => rw [← hd, h.backlog_of_mem ht, Task.backlog_of_ending hphase, List.nil_append]
  · rw [List.append_nil]

end Tidy

theorem Transition.tidy {result : Pool α × List (Outcome α)}
    (htransition : Transition p event result) (h : Tidy p) (hevent : event ≠ .close) :
    Tidy result.1 := by
  cases htransition with
  | submitted destination payload => exact (h.submission destination payload).tidy
  | moved t t' ht hmove => exact h.put ht hmove.follows
  | evicted t ht hphase => exact (h.eviction ht hphase).tidy
  | closed => exact absurd rfl hevent
  | ignored => exact h

namespace Tidy

/-- An event keeps a pool tidy unless it closes it. -/
theorem step (h : Tidy p) (hevent : event ≠ .close) : Tidy (p.step event).1 :=
  (h.transition event).tidy h hevent

theorem run (h : Tidy p) {events : List (Event α)} (hevents : Event.close ∉ events) :
    Tidy (p.run events).1 := by
  induction events generalizing p with
  | nil => exact h
  | cons event events ih =>
      have hevent := (List.ne_of_not_mem_cons hevents).symm
      exact ih (h.step hevent) (List.not_mem_of_not_mem_cons hevents)

end Tidy

/-! ### What comes in and what goes out -/

/-- The payload that an event submits for a destination. -/
def Event.submitted (d : Endpoint) : Event α → List α
  | .submit destination payload => if destination = d then [payload] else []
  | _ => []

/-- The payloads that events submit for a destination, in order. -/
def submitted (d : Endpoint) (events : List (Event α)) : List α :=
  events.flatMap (Event.submitted d)

/-- The payloads for a destination of which nothing more becomes after these outcomes, in order. -/
def settled (d : Endpoint) (outcomes : List (Outcome α)) : List α :=
  (outcomes.filter fun outcome => outcome.isFinal && outcome.destination = d).map Outcome.payload

/-- The payloads for a destination that were written, in order. -/
def written (d : Endpoint) (outcomes : List (Outcome α)) : List α :=
  (outcomes.filter fun outcome => outcome.isWritten && outcome.destination = d).map Outcome.payload

@[simp] theorem settled_append (d : Endpoint) (first others : List (Outcome α)) :
    settled d (first ++ others) = settled d first ++ settled d others := by
  simp [settled]

/-- What is written is settled. -/
theorem written_sublist_settled (d : Endpoint) (outcomes : List (Outcome α)) :
    (written d outcomes).Sublist (settled d outcomes) := by
  refine (List.monotone_filter_right outcomes fun outcome houtcome => ?_).map Outcome.payload
  cases outcome <;> simp_all [Outcome.isWritten, Outcome.isFinal]

/-- Where the outcomes for a destination are all submissions, none of another kind is among
them. -/
theorem filter_of_isQueued {kind : Outcome α → Bool}
    (hkind : ∀ d slot a, kind (.queued d slot a) = false)
    (h : ∀ outcome ∈ outcomes, outcome.destination = d → outcome.isQueued = true) :
    outcomes.filter (fun outcome => kind outcome && outcome.destination = d) = [] := by
  refine List.filter_eq_nil_iff.2 fun outcome hmem hboth => ?_
  obtain ⟨hsome, hd⟩ := Bool.and_eq_true_iff.1 hboth
  obtain ⟨d', slot, a, rfl⟩ := Outcome.exists_of_isQueued (h outcome hmem (of_decide_eq_true hd))
  rw [hkind] at hsome
  exact Bool.false_ne_true hsome

theorem settled_of_isQueued (h : ∀ outcome ∈ outcomes, outcome.isQueued = true) :
    settled d outcomes = [] := by
  rw [settled, filter_of_isQueued (fun _ _ _ => rfl) fun outcome hmem _ => h outcome hmem,
    List.map_nil]

/-- What a move lets go is the front of the task's backlog. -/
theorem Move.backlog_eq (hm : Move t event t' outcomes) :
    t.backlog = settled t.destination outcomes ++ t'.backlog := by
  cases hm with
  | finish hphase =>
      rcases hphase with hphase | hphase <;>
        simp [Task.backlog, Task.held, settled, hphase]
  | _ => simp [Task.backlog, Task.held, settled, Outcome.isFinal, Outcome.destination,
      Outcome.payload, *]

theorem Move.settled_eq_nil (hm : Move t event t' outcomes) (hd : t.destination ≠ d) :
    settled d outcomes = [] := by
  cases hm <;> simp [settled, Outcome.destination, hd]

theorem Move.submitted_eq_nil (hm : Move t event t' outcomes) : event.submitted d = [] := by
  cases hm <;> rfl

theorem Transition.balance {result : Pool α × List (Outcome α)}
    (htransition : Transition p event result) (h : Tidy p) (hevent : event ≠ .close)
    (d : Endpoint) :
    p.backlog d ++ event.submitted d = settled d result.2 ++ result.1.backlog d := by
  cases htransition with
  | submitted destination payload =>
      have hs := h.submission destination payload
      rw [hs.backlog_eq, settled_of_isQueued hs.queued]
      rfl
  | moved t t' ht hmove =>
      -- only the backlog of the task's own destination changes, at its front
      rw [hmove.submitted_eq_nil, List.append_nil, h.backlog_put ht hmove.follows]
      split
      · next hd =>
        subst hd
        rw [h.backlog_of_mem ht, hmove.backlog_eq]
      · next hd => rw [hmove.settled_eq_nil hd, List.nil_append]
  | evicted t ht hphase =>
      have hs := h.eviction ht hphase
      rw [hs.backlog_eq, settled_of_isQueued hs.queued, ite_self]
      rfl
  | closed => exact absurd rfl hevent
  | ignored _ hsubmit =>
      cases event with
      | submit destination payload => exact absurd rfl (hsubmit destination payload)
      | _ => exact List.append_nil _

namespace Tidy

/-- **What waited and what is submitted is what is let go and what waits**, for every event that
does not close the pool. -/
theorem step_balance (h : Tidy p) (hevent : event ≠ .close) (d : Endpoint) :
    p.backlog d ++ event.submitted d = settled d (p.step event).2 ++ (p.step event).1.backlog d :=
  (h.transition event).balance h hevent d

/-- **A run balances as its events do.** -/
theorem run_balance (h : Tidy p) {events : List (Event α)} (hevents : Event.close ∉ events)
    (d : Endpoint) :
    p.backlog d ++ submitted d events =
      settled d (p.run events).2 ++ (p.run events).1.backlog d := by
  induction events generalizing p with
  | nil => exact List.append_nil _
  | cons event events ih =>
      have hevent := (List.ne_of_not_mem_cons hevents).symm
      calc p.backlog d ++ submitted d (event :: events)
          = p.backlog d ++ event.submitted d ++ submitted d events := by
            rw [List.append_assoc]
            rfl
        _ = settled d (p.step event).2 ++ ((p.step event).1.backlog d ++ submitted d events) := by
            rw [h.step_balance hevent, List.append_assoc]
        _ = settled d (p.run (event :: events)).2 ++ (p.run (event :: events)).1.backlog d := by
            rw [ih (h.step hevent) (List.not_mem_of_not_mem_cons hevents), Pool.run, settled_append,
              List.append_assoc]

end Tidy

end Pool

end Framewire
