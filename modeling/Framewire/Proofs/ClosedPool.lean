/-
**What is left of a closed pool.**

When a pool is closed its slots leave the map, but their tasks go on: one of them may still dial for
the payload that was first in its queue, another one writes what it has, and each of them evicts
itself in the end.  None of this brings a slot back.  An eviction drops what is left in the queue
instead of submitting it, and a payload that is submitted after the close comes to no queue; so all
that ever becomes of a slot is that its backlog is worked off.

Slots are told apart by their numbers here, not by their destinations: a destination may have
several tasks when its pool is closed.

Main definitions:

* `Pool.Vacant` — the pool is closed and without slots;
* `Pool.backlogOf`, `Pool.pendingDial` — what waits with the task of a slot, and the payload for
  which it has yet to dial;
* `Pool.settledBy`, `Pool.dialedBy`, `Pool.refusals` — what outcomes say about a slot, and about no
  slot;
* `Pool.Rundown` — what can become of a pool that is closed.

Main results:

* `Pool.Vacant.step`, `Pool.Vacant.run` — **an event, and hence a run, only runs a closed pool
  down**;
* `Pool.closed_stays_empty` — the map stays empty, no slot is opened and no payload is taken, and
  **what was queued before the close is settled once or still waits**.
-/

import Framewire.Proofs.PoolOrder

set_option autoImplicit false

namespace Framewire

namespace Pool

variable {α : Type} {p q r : Pool α} {t t' : Task α} {event : Event α}
  {outcomes others : List (Outcome α)} {slot : Nat}

/-! ### Tasks by number, once more -/

namespace Numbered

theorem task?_put (h : Numbered p) (ht : t ∈ p.tasks) (hid : t'.id = t.id) :
    (p.put t').task? slot = if t.id = slot then some t' else p.task? slot := by
  split
  · next hslot =>
    exact (h.put t').task?_eq_some_iff.2
      ⟨mem_put.2 (.inr ⟨rfl, t, ht, hid.symm⟩), hid.trans hslot⟩
  · next hslot =>
    ext u
    rw [(h.put t').task?_eq_some_iff, h.task?_eq_some_iff, mem_put]
    constructor
    · rintro ⟨⟨hu, -⟩ | ⟨rfl, -⟩, huslot⟩
      · exact ⟨hu, huslot⟩
      · exact absurd (hid.symm.trans huslot) hslot
    · rintro ⟨hu, rfl⟩
      exact ⟨.inl ⟨hu, fun huid => hslot (hid.symm.trans huid.symm)⟩, rfl⟩

theorem task?_remove (h : Numbered p) {id : Nat} :
    (p.remove id).task? slot = if id = slot then none else p.task? slot := by
  ext u
  rw [(h.remove id).task?_eq_some_iff, mem_remove]
  split
  · next hslot =>
    refine iff_of_false ?_ (by simp)
    rintro ⟨⟨-, hne⟩, hid⟩
    exact hne (hid.trans hslot.symm)
  · next hslot =>
    rw [h.task?_eq_some_iff]
    constructor
    · rintro ⟨⟨hu, -⟩, hid⟩
      exact ⟨hu, hid⟩
    · rintro ⟨hu, rfl⟩
      exact ⟨⟨hu, fun hid => hslot hid.symm⟩, rfl⟩

end Numbered

/-! ### What outcomes say about a slot -/

/-- The slot that an outcome is about; a payload that is refused comes to no slot. -/
def Outcome.slot? : Outcome α → Option Nat
  | .refused .. => none
  | .queued _ slot _ | .dialed _ slot _ | .written _ slot _ | .undialed _ slot _
  | .unwritten _ slot _ | .abandoned _ slot _ => some slot

/-- The payloads of a slot of which nothing more becomes after these outcomes, in order. -/
def settledBy (slot : Nat) (outcomes : List (Outcome α)) : List α :=
  (outcomes.filter fun outcome => outcome.isFinal && outcome.slot? = some slot).map Outcome.payload

/-- The payload for which a slot begins to dial, if the outcome is that it does. -/
def Outcome.dialedBy? (slot : Nat) : Outcome α → Option α
  | .dialed _ slot' payload => if slot' = slot then some payload else none
  | _ => none

/-- The payloads for which a slot began to dial, in order. -/
def dialedBy (slot : Nat) (outcomes : List (Outcome α)) : List α :=
  outcomes.filterMap (Outcome.dialedBy? slot)

/-- The payload that the pool refused, if the outcome is that it did, and its destination. -/
def Outcome.refusal? : Outcome α → Option (Endpoint × α)
  | .refused destination payload => some (destination, payload)
  | _ => none

/-- The payloads that the pool refused and their destinations, in order. -/
def refusals (outcomes : List (Outcome α)) : List (Endpoint × α) :=
  outcomes.filterMap Outcome.refusal?

/-- The payload that an event submits, and its destination. -/
def Event.submission? : Event α → Option (Endpoint × α)
  | .submit destination payload => some (destination, payload)
  | _ => none

/-- The payloads that events submit and their destinations, in order. -/
def submissions (events : List (Event α)) : List (Endpoint × α) :=
  events.filterMap Event.submission?

@[simp] theorem settledBy_append (slot : Nat) (first others : List (Outcome α)) :
    settledBy slot (first ++ others) = settledBy slot first ++ settledBy slot others := by
  simp [settledBy]

@[simp] theorem dialedBy_append (slot : Nat) (first others : List (Outcome α)) :
    dialedBy slot (first ++ others) = dialedBy slot first ++ dialedBy slot others :=
  List.filterMap_append

@[simp] theorem refusals_append (first others : List (Outcome α)) :
    refusals (first ++ others) = refusals first ++ refusals others :=
  List.filterMap_append

/-- What was written over the connection of a slot is settled by the slot. -/
theorem writtenOver_sublist_settledBy (slot : Nat) (outcomes : List (Outcome α)) :
    (writtenOver slot outcomes).Sublist (settledBy slot outcomes) := by
  induction outcomes with
  | nil => exact List.Sublist.refl []
  | cons outcome outcomes ih =>
      rw [← List.singleton_append, writtenOver_append, settledBy_append]
      refine List.Sublist.append ?_ ih
      cases outcome with
      | written d slot' payload =>
          by_cases hslot : slot' = slot <;>
            simp [writtenOver, Outcome.writtenOver?, settledBy, Outcome.isFinal, Outcome.slot?,
              Outcome.payload, hslot]
      | _ => exact List.nil_sublist _

/-! ### What waits with a slot -/

/-- The payload for which a task has yet to dial, in a pool that takes no payloads any more: the
first of its queue, if it waits for one. -/
def Task.pendingDial (t : Task α) : List α :=
  match t.phase with
  | .waiting => t.queue.take 1
  | .dialing _ | .connected | .ending => []

/-- The payloads that wait with the task of a slot. -/
def backlogOf (p : Pool α) (slot : Nat) : List α := (p.task? slot).elim [] Task.backlog

/-- The payload for which the task of a slot has yet to dial. -/
def pendingDial (p : Pool α) (slot : Nat) : List α := (p.task? slot).elim [] Task.pendingDial

theorem Task.eq_of_mem_pendingDial {l : List α} (hl : l.Sublist t.pendingDial) {a : α}
    (ha : a ∈ l) : t.phase = .waiting ∧ t.queue.head? = some a ∧ l = [a] := by
  rw [Task.pendingDial] at hl
  split at hl
  · next hphase =>
    cases hqueue : t.queue with
    | nil => simp_all
    | cons first rest =>
        rw [hqueue] at hl
        rcases List.sublist_singleton.1 hl with rfl | rfl
        · simp at ha
        · obtain rfl := List.mem_singleton.1 ha
          exact ⟨hphase, rfl, rfl⟩
  all_goals
    obtain rfl := List.sublist_nil.1 hl
    simp at ha

theorem mem_dialedBy_of_mem {d : Endpoint} {a : α} (h : .dialed d slot a ∈ outcomes) :
    a ∈ dialedBy slot outcomes :=
  List.mem_filterMap.2 ⟨_, h, if_pos rfl⟩

namespace Numbered

theorem backlogOf_id (h : Numbered p) (ht : t ∈ p.tasks) : p.backlogOf t.id = t.backlog := by
  rw [backlogOf, h.task?_eq_some_iff.2 ⟨ht, rfl⟩]
  rfl

theorem pendingDial_id (h : Numbered p) (ht : t ∈ p.tasks) :
    p.pendingDial t.id = t.pendingDial := by
  rw [Pool.pendingDial, h.task?_eq_some_iff.2 ⟨ht, rfl⟩]
  rfl

end Numbered

/-! ### Running down -/

/-- A pool that is closed and has no slots, and whose tasks have different numbers. -/
structure Vacant (p : Pool α) : Prop extends Numbered p where
  closed : p.closed = true
  slots_eq : p.slots = .empty

/-- Closing a pool leaves it vacant, whatever its slots and tasks are. -/
theorem Numbered.vacant_close (h : Numbered p) : Vacant p.close where
  ids_nodup := h.ids_nodup
  closed := rfl
  slots_eq := rfl

/-- **What can become of a closed pool**: it stays vacant and opens no slots; its tasks were there
before; no payload is taken, and what is said about a slot is said about one that was there before;
and what waits with a slot, and the dial for which it waits, can only be worked off. -/
structure Rundown (p q : Pool α) (outcomes : List (Outcome α)) : Prop where
  vacant : Vacant q
  nextId_eq : q.nextId = p.nextId
  descends : ∀ t' ∈ q.tasks, ∃ t ∈ p.tasks, t.id = t'.id ∧ t.destination = t'.destination
  not_queued : ∀ outcome ∈ outcomes, outcome.isQueued = false
  attributed : ∀ outcome ∈ outcomes, ∀ slot, outcome.slot? = some slot →
    ∃ t ∈ p.tasks, t.id = slot ∧ t.destination = outcome.destination
  backlogOf_eq : ∀ slot, p.backlogOf slot = settledBy slot outcomes ++ q.backlogOf slot
  dials : ∀ slot, (dialedBy slot outcomes ++ q.pendingDial slot).Sublist (p.pendingDial slot)

namespace Rundown

theorem refl (h : Vacant p) : Rundown p p [] where
  vacant := h
  nextId_eq := rfl
  descends t ht := ⟨t, ht, rfl, rfl⟩
  not_queued := by simp
  attributed := by simp
  backlogOf_eq _ := rfl
  dials _ := List.Sublist.refl _

theorem trans (first : Rundown p q outcomes) (second : Rundown q r others) :
    Rundown p r (outcomes ++ others) where
  vacant := second.vacant
  nextId_eq := second.nextId_eq.trans first.nextId_eq
  descends t'' ht'' := by
    obtain ⟨t', ht', hid, hdestination⟩ := second.descends t'' ht''
    obtain ⟨t, ht, hid', hdestination'⟩ := first.descends t' ht'
    exact ⟨t, ht, hid'.trans hid, hdestination'.trans hdestination⟩
  not_queued outcome houtcome := by
    rcases List.mem_append.1 houtcome with houtcome | houtcome
    · exact first.not_queued outcome houtcome
    · exact second.not_queued outcome houtcome
  attributed outcome houtcome slot hslot := by
    rcases List.mem_append.1 houtcome with houtcome | houtcome
    · exact first.attributed outcome houtcome slot hslot
    · obtain ⟨t', ht', hid, hdestination⟩ := second.attributed outcome houtcome slot hslot
      obtain ⟨t, ht, hid', hdestination'⟩ := first.descends t' ht'
      exact ⟨t, ht, hid'.trans hid, hdestination'.trans hdestination⟩
  backlogOf_eq slot := by
    rw [first.backlogOf_eq, second.backlogOf_eq, settledBy_append, List.append_assoc]
  dials slot := by
    rw [dialedBy_append, List.append_assoc]
    exact ((second.dials slot).append_left _).trans (first.dials slot)

end Rundown

/-! ### One event -/

/-- What a move lets go is the front of its own slot's backlog. -/
theorem Move.backlog_eq_settledBy (hm : Move t event t' outcomes) :
    t.backlog = settledBy t.id outcomes ++ t'.backlog := by
  cases hm with
  | finish hphase =>
      rcases hphase with hphase | hphase <;>
        simp [Task.backlog, Task.held, settledBy, hphase]
  | _ => simp [Task.backlog, Task.held, settledBy, Outcome.isFinal, Outcome.slot?,
      Outcome.payload, *]

/-- A task dials once, for the payload for which it has yet to. -/
theorem Move.dials (hm : Move t event t' outcomes) :
    (dialedBy t.id outcomes ++ t'.pendingDial).Sublist t.pendingDial := by
  cases hm with
  | dial first rest hphase hqueue =>
      simp [dialedBy, Outcome.dialedBy?, Task.pendingDial, hphase, hqueue]
  | write payload rest hphase => simp [dialedBy, Outcome.dialedBy?, Task.pendingDial, hphase]
  | finish => exact List.nil_sublist _
  | _ => simp [dialedBy, List.filterMap_cons, Outcome.dialedBy?, Task.pendingDial]

/-- A move makes known something about its own slot. -/
theorem Move.told (hm : Move t event t' outcomes) {outcome : Outcome α}
    (houtcome : outcome ∈ outcomes) : outcome.isQueued = false ∧ outcome.refusal? = none ∧
      outcome.slot? = some t.id ∧ outcome.destination = t.destination := by
  cases hm <;> simp_all [Outcome.isQueued, Outcome.refusal?, Outcome.slot?, Outcome.destination]

theorem settledBy_eq_nil (h : ∀ outcome ∈ outcomes, outcome.slot? ≠ some slot) :
    settledBy slot outcomes = [] := by
  rw [settledBy, List.filter_eq_nil_iff.2, List.map_nil]
  intro outcome houtcome
  simp [h outcome houtcome]

theorem dialedBy_eq_nil (h : ∀ outcome ∈ outcomes, outcome.slot? ≠ some slot) :
    dialedBy slot outcomes = [] := by
  rw [dialedBy, List.filterMap_eq_nil_iff]
  intro outcome houtcome
  have hslot := h outcome houtcome
  cases outcome <;> simp_all [Outcome.dialedBy?, Outcome.slot?]

namespace Vacant

/-- What runs a single task down runs the pool down: the task is followed by another one with its
slot, or by none, and all that is made known is about this slot. -/
theorem rundown_of_task (h : Vacant p) (ht : t ∈ p.tasks) (hq : Vacant q)
    (hnextId : q.nextId = p.nextId) (next : Option (Task α))
    (hnext : ∀ t', next = some t' → t.id = t'.id ∧ t.destination = t'.destination)
    (htask : ∀ slot, q.task? slot = if t.id = slot then next else p.task? slot)
    (htold : ∀ outcome ∈ outcomes, outcome.isQueued = false ∧ outcome.slot? = some t.id ∧
      outcome.destination = t.destination)
    (hbacklog : t.backlog = settledBy t.id outcomes ++ next.elim [] Task.backlog)
    (hdials : (dialedBy t.id outcomes ++ next.elim [] Task.pendingDial).Sublist t.pendingDial) :
    Rundown p q outcomes where
  vacant := hq
  nextId_eq := hnextId
  descends u hu := by
    have hfind := hq.task?_eq_some_iff.2 ⟨hu, rfl⟩
    rw [htask] at hfind
    split at hfind
    · exact ⟨t, ht, hnext u hfind⟩
    · exact ⟨u, (h.task?_eq_some_iff.1 hfind).1, rfl, rfl⟩
  not_queued outcome houtcome := (htold outcome houtcome).1
  attributed outcome houtcome slot hslot := by
    obtain ⟨-, hid, hdestination⟩ := htold outcome houtcome
    exact ⟨t, ht, Option.some.inj (hid.symm.trans hslot), hdestination.symm⟩
  backlogOf_eq slot := by
    rw [backlogOf, backlogOf, htask]
    split
    · next hid =>
      subst hid
      rw [h.task?_eq_some_iff.2 ⟨ht, rfl⟩]
      exact hbacklog
    · next hne =>
      -- the backlogs of the other slots are as they were
      rw [settledBy_eq_nil fun outcome houtcome => by simp [htold outcome houtcome, hne],
        List.nil_append]
  dials slot := by
    rw [Pool.pendingDial, Pool.pendingDial, htask]
    split
    · next hid =>
      subst hid
      rw [h.task?_eq_some_iff.2 ⟨ht, rfl⟩]
      exact hdials
    · next hne =>
      rw [dialedBy_eq_nil fun outcome houtcome => by simp [htold outcome houtcome, hne],
        List.nil_append]

/-- A task moves on: its backlog is worked off at the front. -/
theorem move (h : Vacant p) (ht : t ∈ p.tasks) (hm : Move t event t' outcomes) :
    Rundown p (p.put t') outcomes := by
  have hf := hm.follows
  have hq : Vacant (p.put t') := ⟨h.put t', h.closed, h.slots_eq⟩
  refine h.rundown_of_task ht hq rfl (some t') ?_ (fun slot => h.task?_put ht hf.id_eq)
    (fun outcome houtcome => ?_) hm.backlog_eq_settledBy hm.dials
  · intro u hu
    obtain rfl := Option.some.inj hu
    exact ⟨hf.id_eq.symm, hf.destination_eq.symm⟩
  · obtain ⟨hqueued, -, hslot, hdestination⟩ := hm.told houtcome
    exact ⟨hqueued, hslot, hdestination⟩

/-- **An eviction drops what is left in the queue**, and the task is over. -/
theorem evict_eq (h : Vacant p) (ht : t ∈ p.tasks) :
    p.evict t.id = (p.remove t.id, t.queue.map (.abandoned t.destination t.id)) := by
  have hdetach : p.detach t = p.remove t.id := by
    rw [detach, unlink, if_neg]
    simp [h.slots_eq]
  rw [h.toNumbered.evict_eq ht, if_pos h.closed, hdetach]

theorem step_evict_eq (h : Vacant p) (ht : t ∈ p.tasks) (hphase : t.phase = .ending) :
    p.step (.evict t.id) = (p.remove t.id, t.queue.map (.abandoned t.destination t.id)) := by
  rw [h.step_evict ht hphase, h.evict_eq ht]

/-- The task that evicts itself leaves nothing behind. -/
theorem evict (h : Vacant p) (ht : t ∈ p.tasks) (hphase : t.phase = .ending) :
    Rundown p (p.remove t.id) (t.queue.map (.abandoned t.destination t.id)) := by
  have hq : Vacant (p.remove t.id) := ⟨h.remove t.id, h.closed, h.slots_eq⟩
  refine h.rundown_of_task ht hq rfl none (by simp) (fun slot => h.task?_remove) ?_ ?_ ?_
  · simp [Outcome.slot?, Outcome.destination, Outcome.isQueued]
  · simp [Task.backlog_of_ending hphase, settledBy, List.filter_map, Function.comp_def,
      Outcome.isFinal, Outcome.slot?, Outcome.payload]
  · simp [dialedBy, List.filterMap_map, Function.comp_def, Outcome.dialedBy?]

/-- **A payload that is submitted is dropped.** -/
theorem submit (h : Vacant p) (destination : Endpoint) (payload : α) :
    Rundown p p [.refused destination payload] where
  vacant := h
  nextId_eq := rfl
  descends t ht := ⟨t, ht, rfl, rfl⟩
  not_queued := by simp [Outcome.isQueued]
  attributed := by simp [Outcome.slot?]
  backlogOf_eq slot := by simp [settledBy, Outcome.slot?]
  dials slot := by simp [dialedBy, Outcome.dialedBy?]

/-- Closing a pool again changes nothing. -/
theorem close_eq (h : Vacant p) : p.close = p := by
  rcases p with ⟨slots, tasks, nextId, closed⟩
  obtain rfl : closed = true := h.closed
  obtain rfl : slots = .empty := h.slots_eq
  rfl

end Vacant

theorem Transition.rundown {result : Pool α × List (Outcome α)}
    (htransition : Transition p event result) (h : Vacant p) :
    Rundown p result.1 result.2 ∧ refusals result.2 = event.submission?.toList := by
  cases htransition with
  | submitted destination payload =>
      rw [submit_of_closed p destination payload h.closed]
      exact ⟨h.submit destination payload, rfl⟩
  | moved t t' ht hmove =>
      refine ⟨h.move ht hmove, ?_⟩
      have hsubmission : event.submission? = none := by
        cases hmove <;> rfl
      rw [hsubmission, refusals, Option.toList_none, List.filterMap_eq_nil_iff]
      exact fun outcome houtcome => (hmove.told houtcome).2.1
  | evicted t ht hphase =>
      rw [h.evict_eq ht]
      refine ⟨h.evict ht hphase, ?_⟩
      simp [refusals, Event.submission?, Outcome.refusal?]
  | closed =>
      rw [h.close_eq]
      exact ⟨.refl h, rfl⟩
  | ignored _ hsubmit =>
      refine ⟨.refl h, ?_⟩
      cases event with
      | submit destination payload => exact absurd rfl (hsubmit destination payload)
      | _ => rfl

namespace Vacant

/-- **An event only runs a closed pool down**, and it refuses what is submitted. -/
theorem step (h : Vacant p) (event : Event α) :
    Rundown p (p.step event).1 (p.step event).2 ∧
      refusals (p.step event).2 = event.submission?.toList :=
  (h.transition event).rundown h

/-- **A run only runs a closed pool down**, and it refuses all that is submitted. -/
theorem run (h : Vacant p) (events : List (Event α)) :
    Rundown p (p.run events).1 (p.run events).2 ∧
      refusals (p.run events).2 = submissions events := by
  induction events generalizing p with
  | nil => exact ⟨.refl h, rfl⟩
  | cons event events ih =>
      obtain ⟨hfirst, hrefused⟩ := h.step event
      obtain ⟨hothers, hrefusals⟩ := ih hfirst.vacant
      refine ⟨hfirst.trans hothers, ?_⟩
      rw [Pool.run, refusals_append, hrefused, hrefusals]
      cases hsubmission : event.submission? <;> simp [submissions, hsubmission]

end Vacant

/-! ### Main result -/

/-- **A closed pool stays empty.**  Whatever slots and tasks a pool had when it was closed, and
whatever is submitted and done by its tasks after that:

* it has no slots, and none is opened;
* exactly what is submitted later is refused; nothing is queued, and a dial is begun only by a task
  that waited when the pool was closed, for the payload that was first in its queue by then;
* the same will be true of what comes next: a submission changes nothing, and an eviction drops all
  that is left in its queue;
* what waited with a task when the pool was closed, position by position, is settled in this order
  or still waits, so that it is written once at most; and it is written to the destination of the
  task. -/
theorem closed_stays_empty (h : Numbered p) (events : List (Event α)) :
    let after := (p.close.run events).1
    let outcomes := (p.close.run events).2
    (after.size = 0 ∧ (∀ d, after.contains d = false) ∧ after.nextId = p.nextId ∧
      ∀ t' ∈ after.tasks, ∃ t ∈ p.tasks, t.id = t'.id ∧ t.destination = t'.destination) ∧
    (refusals outcomes = submissions events ∧ (∀ o ∈ outcomes, o.isQueued = false) ∧
      ∀ d slot a, .dialed d slot a ∈ outcomes → ∃ t ∈ p.tasks, t.id = slot ∧
        t.destination = d ∧ t.phase = .waiting ∧ t.queue.head? = some a ∧
        dialedBy slot outcomes = [a]) ∧
    ((∀ d a, after.step (.submit d a) = (after, [.refused d a])) ∧
      ∀ t ∈ after.tasks, t.phase = .ending →
        after.step (.evict t.id) =
          (after.remove t.id, t.queue.map (.abandoned t.destination t.id))) ∧
    ((∀ t ∈ p.tasks, t.backlog = settledBy t.id outcomes ++ after.backlogOf t.id ∧
        (writtenOver t.id outcomes).Sublist t.backlog) ∧
      ∀ o ∈ outcomes, ∀ slot, o.slot? = some slot →
        ∃ t ∈ p.tasks, t.id = slot ∧ t.destination = o.destination) := by
  intro after outcomes
  obtain ⟨hrundown, hrefusals⟩ := h.vacant_close.run events
  have hvacant : Vacant after := hrundown.vacant
  refine ⟨⟨?_, fun d => ?_, hrundown.nextId_eq, hrundown.descends⟩,
    ⟨hrefusals, hrundown.not_queued, fun d slot a hdialed => ?_⟩,
    ⟨fun d a => submit_of_closed after d a hvacant.closed, fun t ht hphase => ?_⟩,
    ⟨fun t ht => ?_, hrundown.attributed⟩⟩
  · rw [size, hvacant.slots_eq, Directory.size_empty]
  · rw [Pool.contains, Directory.contains, hvacant.slots_eq, Directory.get?_empty,
      Option.isSome_none]
  · obtain ⟨t, ht, rfl, hd⟩ := hrundown.attributed _ hdialed slot rfl
    have hdials : (dialedBy t.id outcomes).Sublist t.pendingDial := by
      rw [← h.pendingDial_id ht]
      exact (List.sublist_append_left _ _).trans (hrundown.dials t.id)
    have hfirst := Task.eq_of_mem_pendingDial hdials (mem_dialedBy_of_mem hdialed)
    exact ⟨t, ht, rfl, hd, hfirst⟩
  · exact hvacant.step_evict_eq ht hphase
  · have hbacklog : t.backlog = settledBy t.id outcomes ++ after.backlogOf t.id := by
      rw [← h.backlogOf_id ht]
      exact hrundown.backlogOf_eq t.id
    refine ⟨hbacklog, ?_⟩
    rw [hbacklog]
    exact (writtenOver_sublist_settledBy t.id outcomes).trans (List.sublist_append_left _ _)

/-- A pool is closed while one slot dials, another one is connected, a third one waits and a fourth
one is about to evict itself.  The third one dials for what was first in its queue, and all of them
evict themselves; nothing that is submitted meanwhile comes to a slot. -/
theorem closed_stays_empty_of_four_slots :
    let d (port : UInt16) : Endpoint := .v4 .unspecified port
    let before : List (Event Nat) :=
      [.submit (d 1) 10, .submit (d 1) 11, .dial 1, .submit (d 2) 20, .submit (d 2) 21,
        .submit (d 2) 22, .dial 2, .dialed 2 true, .submit (d 3) 30, .submit (d 3) 31,
        .submit (d 4) 40, .dial 4, .undialed 4, .submit (d 4) 41]
    let events : List (Event Nat) :=
      [.submit (d 1) 12, .evict 4, .dial 3, .write 2 true, .submit (d 4) 42, .dialed 1 true,
        .finish 1, .evict 1, .dial 4, .undialed 3, .write 2 false, .evict 3, .submit (d 3) 32]
    let p := (({} : Pool Nat).run before).1
    let after := (p.close.run events).1
    let outcomes := (p.close.run events).2
    Numbered p ∧ p.size = 4 ∧ after.size = 0 ∧ after.contains (d 4) = false ∧ after.nextId = 5 ∧
      refusals outcomes = [(d 1, 12), (d 4, 42), (d 3, 32)] ∧
      (∃ t ∈ p.tasks, t.id = 3 ∧ t.queue.head? = some 30 ∧ dialedBy 3 outcomes = [30]) ∧
      after.step (.evict 2) = (after.remove 2, []) ∧
      (∃ t ∈ p.tasks, t.id = 1 ∧ t.backlog = [10, 11] ∧
        t.backlog = settledBy 1 outcomes ++ after.backlogOf 1) ∧
      writtenOver 1 outcomes = [10] ∧ settledBy 2 outcomes = [21, 22] := by
  intro d before events p after outcomes
  have hp : Numbered p := ⟨by decide⟩
  obtain ⟨⟨hsize, hcontains, hnextId, -⟩, ⟨hrefusals, -, hdials⟩, ⟨-, hevict⟩, ⟨hbacklog, -⟩⟩ :=
    closed_stays_empty hp events
  obtain ⟨t, ht, hid, -, -, hfirst, hdialed⟩ := hdials (d 3) 3 30 (by decide)
  have hfour : p.size = 4 := by decide
  have hrefused : refusals outcomes = [(d 1, 12), (d 4, 42), (d 3, 32)] := hrefusals
  refine ⟨hp, hfour, hsize, hcontains (d 4), hnextId.trans (by decide), hrefused,
    ⟨t, ht, hid, hfirst, hdialed⟩, ?_, ?_, by decide, by decide⟩
  · exact hevict { id := 2, destination := d 2, phase := .ending } (by decide) rfl
  · have hmem : { id := 1, destination := d 1, queue := [11], phase := .dialing 10 } ∈ p.tasks := by
      decide
    exact ⟨_, hmem, rfl, rfl, (hbacklog _ hmem).1⟩

end Pool

end Framewire
