/-
**What can happen to a pool.**

Every event that does not close a pool is made of a few elementary changes: a task moves on, a slot
is opened for a destination that has none, the slot of a task that has come to its end leaves the
map, and such a task is over.  What each of the changes keeps, every event keeps.  In particular a
pool stays orderly: its tasks have different numbers and take payloads, every slot in the map has
its task, and a task that has not come to its end has its slot in the map.

Main definitions:

* `Pool.Numbered`, `Pool.Orderly` — tasks have different numbers; the order that is kept;
* `Pool.Change`, `Pool.Changes` — elementary changes, and any number of them;
* `Pool.Move` — what an event makes of the task that it is about;
* `Pool.Transition` — what an event does to a pool.

Main results:

* `Pool.Numbered.transition` — **every event has one of the transitions**;
* `Pool.Numbered.step_eq_of_move` — a move that a task can make is made;
* `Pool.Orderly.step_changes`, `Pool.Orderly.step` — an event is made of elementary changes, and
  keeps the order.
-/

import Framewire.Pool
import Mathlib.Data.List.Nodup
import Mathlib.Logic.Relation

set_option autoImplicit false

namespace Framewire

namespace Pool

variable {α : Type} {p q : Pool α} {t t' : Task α} {destination : Endpoint} {id : Nat}

/-! ### Tasks by number -/

/-- Puts a task in the place of the one that has its number. -/
def put (p : Pool α) (t : Task α) : Pool α := p.modify t.id fun _ => t

theorem mem_put : t' ∈ (p.put t).tasks ↔
    (t' ∈ p.tasks ∧ t'.id ≠ t.id) ∨ (t' = t ∧ ∃ u ∈ p.tasks, u.id = t.id) := by
  simp only [put, modify, List.mem_map]
  constructor
  · rintro ⟨u, hu, rfl⟩
    split
    · next h => exact .inr ⟨rfl, u, hu, h⟩
    · next h => exact .inl ⟨hu, h⟩
  · rintro (⟨h, hne⟩ | ⟨rfl, u, hu, hid⟩)
    · exact ⟨t', h, if_neg hne⟩
    · exact ⟨u, hu, if_pos hid⟩

theorem ids_put (p : Pool α) (t : Task α) : (p.put t).tasks.map Task.id = p.tasks.map Task.id := by
  simp only [put, modify, List.map_map]
  refine List.map_congr_left fun u _ => ?_
  simp only [Function.comp_apply]
  split
  · next h => exact h.symm
  · rfl

theorem mem_remove : t ∈ (p.remove id).tasks ↔ t ∈ p.tasks ∧ t.id ≠ id := by
  simp [remove]

/-- A queue that is shut makes no difference once the task is over. -/
theorem remove_shut (p : Pool α) (id : Nat) : (p.shut id).remove id = p.remove id := by
  simp only [shut, remove, modify, mk.injEq, and_true, true_and]
  induction p.tasks with
  | nil => rfl
  | cons t tasks ih =>
      -- the task that is shut is the one that goes
      rw [List.map_cons, List.filter_cons, List.filter_cons, ih]
      split <;> simp_all

/-- A task has begun to dial and has not come to its end. -/
def Task.isActive (t : Task α) : Bool :=
  match t.phase with
  | .dialing _ | .connected => true
  | .waiting | .ending => false

/-! ### The order of a pool -/

/-- The tasks of a pool have different numbers. -/
structure Numbered (p : Pool α) : Prop where
  ids_nodup : (p.tasks.map Task.id).Nodup

/-- All numbers of tasks were given out, and to one task each; every task takes payloads; every slot
in the map has its task; and as long as the pool is open, every task that has not come to its end
has its slot in the map. -/
structure Orderly (p : Pool α) : Prop extends Numbered p where
  id_lt : ∀ t ∈ p.tasks, t.id < p.nextId
  accepting : ∀ t ∈ p.tasks, t.accepting = true
  task_of_slot : ∀ destination id, p.slots.get? destination = some id →
    ∃ t ∈ p.tasks, t.id = id ∧ t.destination = destination
  slot_of_task : p.closed = false → ∀ t ∈ p.tasks, t.phase ≠ .ending →
    p.slots.get? t.destination = some t.id

theorem orderly_empty : Orderly ({} : Pool α) where
  ids_nodup := List.nodup_nil
  id_lt := by simp
  accepting := by simp
  task_of_slot := by simp
  slot_of_task := by simp

namespace Numbered

/-- A task is known by its number. -/
theorem eq_of_id (h : Numbered p) (ht : t ∈ p.tasks) (ht' : t' ∈ p.tasks) (hid : t.id = t'.id) :
    t = t' :=
  List.inj_on_of_nodup_map h.ids_nodup ht ht' hid

theorem task?_eq_some_iff (h : Numbered p) : p.task? id = some t ↔ t ∈ p.tasks ∧ t.id = id := by
  constructor
  · intro ht
    exact ⟨List.mem_of_find?_eq_some ht, by simpa using List.find?_some ht⟩
  · rintro ⟨ht, rfl⟩
    obtain ⟨u, hu⟩ : ∃ u, p.task? t.id = some u := by
      rw [← Option.isSome_iff_exists, task?, List.find?_isSome]
      exact ⟨t, ht, by simp⟩
    have hmem := List.mem_of_find?_eq_some hu
    have hid : u.id = t.id := by simpa using List.find?_some hu
    rw [hu, h.eq_of_id hmem ht hid]

/-- Changing the task of a number is putting another task in its place. -/
theorem modify_eq_put (h : Numbered p) (ht : t ∈ p.tasks) (f : Task α → Task α)
    (hid : (f t).id = t.id) : p.modify t.id f = p.put (f t) := by
  simp only [put, modify, hid, mk.injEq, and_true, true_and]
  refine List.map_congr_left fun u hu => ?_
  split
  · next hu' => rw [h.eq_of_id hu ht hu']
  · rfl

theorem put (h : Numbered p) (t : Task α) : Numbered (p.put t) where
  ids_nodup := (ids_put p t).symm ▸ h.ids_nodup

theorem remove (h : Numbered p) (id : Nat) : Numbered (p.remove id) where
  ids_nodup := h.ids_nodup.sublist (List.filter_sublist.map Task.id)

end Numbered

/-! ### Elementary changes -/

/-- The task that a destination gets with a new slot. -/
def newTask (p : Pool α) (destination : Endpoint) : Task α := { id := p.nextId, destination }

/-- A task comes from another one: it has the same slot, and it has not come back from its end. -/
structure Task.Follows (t' t : Task α) : Prop where
  id_eq : t'.id = t.id
  destination_eq : t'.destination = t.destination
  accepting_eq : t'.accepting = t.accepting
  phase_ne : t'.phase ≠ .ending → t.phase ≠ .ending

/-- The elementary changes of a pool that is not being closed: a task moves on; a destination
without a slot gets one; the slot of a task that has come to its end leaves the map; and such a task
is over once its slot has left. -/
inductive Change (p : Pool α) : Pool α → Prop where
  | moved (t t' : Task α) (ht : t ∈ p.tasks) (hfollows : t'.Follows t) : Change p (p.put t')
  | opened (destination : Endpoint) (hslot : p.slots.get? destination = none) :
      Change p (p.openSlot destination)
  | unlinked (t : Task α) (ht : t ∈ p.tasks) (hphase : t.phase = .ending) :
      Change p (p.unlink t.destination t.id)
  | removed (t : Task α) (ht : t ∈ p.tasks) (hphase : t.phase = .ending)
      (hslot : ∀ destination, p.slots.get? destination ≠ some t.id) : Change p (p.remove t.id)

theorem get?_unlink (p : Pool α) (destination destination' : Endpoint) (id : Nat) :
    (p.unlink destination id).slots.get? destination' =
      if p.slots.get? destination = some id ∧ destination' = destination then none
      else p.slots.get? destination' := by
  rw [unlink]
  split
  · next h => simp [h, Directory.get?_erase]
  · next h => simp [h]

@[simp] theorem tasks_unlink (p : Pool α) (destination : Endpoint) (id : Nat) :
    (p.unlink destination id).tasks = p.tasks := by
  rw [unlink]
  split <;> rfl

@[simp] theorem nextId_unlink (p : Pool α) (destination : Endpoint) (id : Nat) :
    (p.unlink destination id).nextId = p.nextId := by
  rw [unlink]
  split <;> rfl

@[simp] theorem closed_unlink (p : Pool α) (destination : Endpoint) (id : Nat) :
    (p.unlink destination id).closed = p.closed := by
  rw [unlink]
  split <;> rfl

namespace Orderly

/-- A task moves on. -/
theorem put (h : Orderly p) (ht : t ∈ p.tasks) (hf : t'.Follows t) : Orderly (p.put t') where
  ids_nodup := by
    rw [ids_put]
    exact h.ids_nodup
  id_lt u hu := by
    rcases mem_put.1 hu with ⟨hu, -⟩ | ⟨rfl, -⟩
    · exact h.id_lt u hu
    · rw [hf.id_eq]
      exact h.id_lt t ht
  accepting u hu := by
    rcases mem_put.1 hu with ⟨hu, -⟩ | ⟨rfl, -⟩
    · exact h.accepting u hu
    · exact hf.accepting_eq.trans (h.accepting t ht)
  task_of_slot destination id hslot := by
    obtain ⟨u, hu, rfl, rfl⟩ := h.task_of_slot destination id hslot
    -- the slot of the task that moves has the moved task from now on
    by_cases huid : u.id = t'.id
    · obtain rfl : u = t := h.eq_of_id hu ht (huid.trans hf.id_eq)
      exact ⟨t', mem_put.2 (.inr ⟨rfl, u, hu, huid⟩), hf.id_eq, hf.destination_eq⟩
    · exact ⟨u, mem_put.2 (.inl ⟨hu, huid⟩), rfl, rfl⟩
  slot_of_task hopen u hu huphase := by
    rcases mem_put.1 hu with ⟨hu, -⟩ | ⟨rfl, -⟩
    · exact h.slot_of_task hopen u hu huphase
    · rw [hf.destination_eq, hf.id_eq]
      exact h.slot_of_task hopen t ht (hf.phase_ne huphase)

/-- A destination gets a slot that had none. -/
theorem openSlot (h : Orderly p) (hslot : p.slots.get? destination = none) :
    Orderly (p.openSlot destination) where
  ids_nodup := by
    rw [Pool.openSlot, List.map_append, List.nodup_append]
    refine ⟨h.ids_nodup, List.nodup_singleton _, ?_⟩
    simp only [List.mem_map, List.mem_singleton, forall_exists_index, and_imp]
    rintro _ t ht rfl _ _ rfl rfl
    exact Nat.ne_of_lt (h.id_lt t ht)
  id_lt u hu := by
    rcases List.mem_append.1 hu with hu | hu
    · exact Nat.lt_succ_of_lt (h.id_lt u hu)
    · obtain rfl := List.mem_singleton.1 hu
      exact Nat.lt_succ_self _
  accepting u hu := by
    rcases List.mem_append.1 hu with hu | hu
    · exact h.accepting u hu
    · obtain rfl := List.mem_singleton.1 hu
      rfl
  task_of_slot destination' id hget := by
    simp only [Pool.openSlot, Directory.get?_insert] at hget
    split at hget
    · next hd =>
      have hmem := List.mem_append_right p.tasks (List.mem_singleton_self (p.newTask destination))
      exact ⟨p.newTask destination, hmem, Option.some.inj hget, hd.symm⟩
    · obtain ⟨u, hu, hid, hdestination⟩ := h.task_of_slot destination' id hget
      exact ⟨u, List.mem_append_left _ hu, hid, hdestination⟩
  slot_of_task hopen u hu hphase := by
    simp only [Pool.openSlot, Directory.get?_insert]
    rcases List.mem_append.1 hu with hu | hu
    · have hget := h.slot_of_task hopen u hu hphase
      rw [if_neg, hget]
      rintro rfl
      rw [hslot] at hget
      exact absurd hget (by simp)
    · obtain rfl := List.mem_singleton.1 hu
      rw [if_pos rfl]

/-- The slot of a task that has come to its end leaves the map. -/
theorem unlink (h : Orderly p) (ht : t ∈ p.tasks) (hphase : t.phase = .ending) :
    Orderly (p.unlink t.destination t.id) where
  ids_nodup := by
    rw [tasks_unlink]
    exact h.ids_nodup
  id_lt u hu := by
    rw [tasks_unlink] at hu
    rw [nextId_unlink]
    exact h.id_lt u hu
  accepting u hu := by
    rw [tasks_unlink] at hu
    exact h.accepting u hu
  task_of_slot destination id hget := by
    rw [get?_unlink] at hget
    rw [tasks_unlink]
    split at hget
    · exact absurd hget (by simp)
    · exact h.task_of_slot destination id hget
  slot_of_task hopen u hu huphase := by
    rw [closed_unlink] at hopen
    rw [tasks_unlink] at hu
    have hget := h.slot_of_task hopen u hu huphase
    rw [get?_unlink, if_neg, hget]
    rintro ⟨hslot, hdestination⟩
    -- two tasks with one slot are one task, which has come to its end
    rw [← hdestination, hget, Option.some.injEq] at hslot
    obtain rfl := h.eq_of_id hu ht hslot
    exact huphase hphase

/-- The slot of a task is no longer in the map when it has left. -/
theorem get?_unlink_ne (h : Orderly p) (ht : t ∈ p.tasks) (destination : Endpoint) :
    (p.unlink t.destination t.id).slots.get? destination ≠ some t.id := by
  rw [get?_unlink]
  split
  · simp
  · next hne =>
    intro hget
    obtain ⟨u, hu, hid, rfl⟩ := h.task_of_slot destination t.id hget
    obtain rfl := h.eq_of_id hu ht hid
    exact hne ⟨hget, rfl⟩

/-- A task whose slot has left the map is over. -/
theorem remove (h : Orderly p) (hslot : ∀ destination, p.slots.get? destination ≠ some id) :
    Orderly (p.remove id) where
  ids_nodup := h.ids_nodup.sublist (List.filter_sublist.map Task.id)
  id_lt u hu := h.id_lt u (mem_remove.1 hu).1
  accepting u hu := h.accepting u (mem_remove.1 hu).1
  task_of_slot destination id' hget := by
    obtain ⟨u, hu, rfl, hdestination⟩ := h.task_of_slot destination id' hget
    refine ⟨u, mem_remove.2 ⟨hu, ?_⟩, rfl, hdestination⟩
    rintro rfl
    exact hslot destination hget
  slot_of_task hopen u hu := h.slot_of_task hopen u (mem_remove.1 hu).1

theorem close (h : Orderly p) : Orderly p.close where
  ids_nodup := h.ids_nodup
  id_lt := h.id_lt
  accepting := h.accepting
  task_of_slot := by simp [Pool.close]
  slot_of_task := by simp [Pool.close]

theorem change (h : Orderly p) (hc : Change p q) : Orderly q := by
  cases hc with
  | moved t t' ht hfollows => exact h.put ht hfollows
  | opened destination hslot => exact h.openSlot hslot
  | unlinked t ht hphase => exact h.unlink ht hphase
  | removed t ht hphase hslot => exact h.remove hslot

end Orderly

/-- Any number of elementary changes. -/
def Changes : Pool α → Pool α → Prop := Relation.ReflTransGen Change

theorem Change.closed_eq (hc : Change p q) : q.closed = p.closed := by
  cases hc with
  | unlinked t => exact closed_unlink p t.destination t.id
  | _ => rfl

theorem Changes.closed_eq (hc : Changes p q) : q.closed = p.closed := by
  induction hc with
  | refl => rfl
  | tail _ hchange ih => exact hchange.closed_eq.trans ih

theorem Orderly.changes (h : Orderly p) (hc : Changes p q) : Orderly q := by
  induction hc with
  | refl => exact h
  | tail _ hchange ih => exact ih.change hchange

/-! ### Submissions -/

/-- The slot of a destination has been looked up: the pool after that, in which a slot was opened if
there was none, and the task of the slot. -/
inductive Lookup (p : Pool α) (destination : Endpoint) : Pool α → Task α → Prop where
  | found (t : Task α) (ht : t ∈ p.tasks) (hslot : p.slots.get? destination = some t.id)
      (hdestination : t.destination = destination) : Lookup p destination p t
  | opened (hslot : p.slots.get? destination = none) :
      Lookup p destination (p.openSlot destination) (p.newTask destination)

theorem Orderly.exists_lookup (h : Orderly p) (destination : Endpoint) :
    ∃ q t, Lookup p destination q t ∧ p.slotFor destination = (t.id, q) := by
  rw [slotFor]
  split
  · next id hslot =>
    obtain ⟨t, ht, rfl, hdestination⟩ := h.task_of_slot destination id hslot
    exact ⟨p, t, .found t ht hslot hdestination, rfl⟩
  · next hslot => exact ⟨_, _, .opened hslot, rfl⟩

namespace Lookup

theorem changes (hl : Lookup p destination q t) : Changes p q := by
  cases hl with
  | found => exact .refl
  | opened hslot => exact .single (.opened destination hslot)

theorem mem_tasks (hl : Lookup p destination q t) : t ∈ q.tasks := by
  cases hl with
  | found t ht => exact ht
  | opened => exact List.mem_append_right _ (List.mem_singleton_self _)

theorem destination_eq (hl : Lookup p destination q t) : t.destination = destination := by
  cases hl with
  | found t ht hslot hdestination => exact hdestination
  | opened => rfl

end Lookup

/-- The task with another payload behind its queue. -/
def Task.receive (t : Task α) (payload : α) : Task α := { t with queue := t.queue ++ [payload] }

theorem Task.receive_follows (t : Task α) (payload : α) : (t.receive payload).Follows t :=
  ⟨rfl, rfl, rfl, fun hphase => hphase⟩

/-- An orderly open pool adds a payload that is submitted to the queue of its destination's slot. -/
theorem Lookup.submit_eq (h : Orderly p) (hopen : p.closed = false)
    (hl : Lookup p destination q t) (hlookup : p.slotFor destination = (t.id, q)) (payload : α) :
    p.submit destination payload =
      (q.put (t.receive payload), [.queued destination t.id payload]) := by
  have hq : Orderly q := h.changes hl.changes
  -- the first attempt succeeds, because every task of an orderly pool takes payloads
  have haccepts : q.accepts t.id = true := by
    rw [accepts, hq.task?_eq_some_iff.2 ⟨hl.mem_tasks, rfl⟩, Option.any_some]
    exact hq.accepting t hl.mem_tasks
  rw [submit, submitAttempts, submitWithin, hopen, hlookup]
  simp only [Bool.false_eq_true, if_false, haccepts, if_true, enqueue]
  rw [hq.modify_eq_put hl.mem_tasks _ rfl]
  rfl

theorem Orderly.submit_changes (h : Orderly p) (destination : Endpoint) (payload : α) :
    Changes p (p.submit destination payload).1 := by
  by_cases hopen : p.closed = false
  · obtain ⟨q, t, hl, hlookup⟩ := h.exists_lookup destination
    rw [hl.submit_eq h hopen hlookup]
    exact hl.changes.tail (.moved t _ hl.mem_tasks (t.receive_follows payload))
  · rw [submit_of_closed _ _ _ (by simpa using hopen)]
    exact .refl

theorem Orderly.submitAll_changes (h : Orderly p) (destination : Endpoint) (payloads : List α) :
    Changes p (p.submitAll destination payloads).1 := by
  induction payloads generalizing p with
  | nil => exact .refl
  | cons payload payloads ih =>
      have hfirst := h.submit_changes destination payload
      exact hfirst.trans (ih (h.changes hfirst))

/-! ### Evictions -/

/-- The pool without a task, before what was in its queue is submitted again. -/
def detach (p : Pool α) (t : Task α) : Pool α := (p.unlink t.destination t.id).remove t.id

@[simp] theorem closed_detach (p : Pool α) (t : Task α) : (p.detach t).closed = p.closed :=
  closed_unlink p t.destination t.id

theorem Numbered.evict_eq (h : Numbered p) (ht : t ∈ p.tasks) :
    p.evict t.id =
      if p.closed then (p.detach t, t.queue.map (.abandoned t.destination t.id))
      else (p.detach t).submitAll t.destination t.queue := by
  rw [evict, h.task?_eq_some_iff.2 ⟨ht, rfl⟩]
  simp only [remove_shut]
  rw [← closed_detach p t]
  rfl

theorem Orderly.detach_changes (h : Orderly p) (ht : t ∈ p.tasks) (hphase : t.phase = .ending) :
    Changes p (p.detach t) := by
  refine .tail (.single (.unlinked t ht hphase)) (.removed t ?_ hphase (h.get?_unlink_ne ht))
  rwa [tasks_unlink]

theorem Orderly.evict_changes (h : Orderly p) (ht : t ∈ p.tasks) (hphase : t.phase = .ending) :
    Changes p (p.evict t.id).1 := by
  have hdetach := h.detach_changes ht hphase
  rw [h.evict_eq ht]
  split
  · exact hdetach
  · exact hdetach.trans ((h.changes hdetach).submitAll_changes _ _)

/-! ### Steps -/

/-- What an event makes of the task that it is about, and what it makes known. -/
inductive Move (t : Task α) : Event α → Task α → List (Outcome α) → Prop where
  | dial (first : α) (rest : List α) (hphase : t.phase = .waiting)
      (hqueue : t.queue = first :: rest) :
      Move t (.dial t.id) { t with queue := rest, phase := .dialing first }
        [.dialed t.destination t.id first]
  | connect (first : α) (hphase : t.phase = .dialing first) :
      Move t (.dialed t.id true) { t with phase := .connected } [.written t.destination t.id first]
  | breakOff (first : α) (hphase : t.phase = .dialing first) :
      Move t (.dialed t.id false) { t with phase := .ending } [.unwritten t.destination t.id first]
  | giveUp (first : α) (hphase : t.phase = .dialing first) :
      Move t (.undialed t.id) { t with phase := .ending } [.undialed t.destination t.id first]
  | write (payload : α) (rest : List α) (hphase : t.phase = .connected)
      (hqueue : t.queue = payload :: rest) :
      Move t (.write t.id true) { t with queue := rest } [.written t.destination t.id payload]
  | lose (payload : α) (rest : List α) (hphase : t.phase = .connected)
      (hqueue : t.queue = payload :: rest) :
      Move t (.write t.id false) { t with queue := rest, phase := .ending }
        [.unwritten t.destination t.id payload]
  | abandon (first : α) (hphase : t.phase = .dialing first) :
      Move t (.finish t.id) { t with phase := .ending } [.abandoned t.destination t.id first]
  | finish (hphase : t.phase = .waiting ∨ t.phase = .connected) :
      Move t (.finish t.id) { t with phase := .ending } []

/-- What an event does to a pool whose tasks have different numbers, and what it makes known. -/
inductive Transition (p : Pool α) : Event α → Pool α × List (Outcome α) → Prop where
  | submitted (destination : Endpoint) (payload : α) :
      Transition p (.submit destination payload) (p.submit destination payload)
  | moved {event : Event α} {outcomes : List (Outcome α)} (t t' : Task α) (ht : t ∈ p.tasks)
      (hmove : Move t event t' outcomes) : Transition p event (p.put t', outcomes)
  | evicted (t : Task α) (ht : t ∈ p.tasks) (hphase : t.phase = .ending) :
      Transition p (.evict t.id) (p.evict t.id)
  | closed : Transition p .close (p.close, [])
  | ignored (event : Event α)
      (hsubmit : ∀ destination payload, event ≠ .submit destination payload) :
      Transition p event (p, [])

theorem Numbered.enter_eq_put (h : Numbered p) (ht : t ∈ p.tasks) (phase : Phase α) :
    p.enter t.id phase = p.put { t with phase } :=
  h.modify_eq_put ht _ rfl

theorem Numbered.take_eq_put (h : Numbered p) (ht : t ∈ p.tasks) (rest : List α) (phase : Phase α) :
    p.take t.id rest phase = p.put { t with queue := rest, phase } :=
  h.modify_eq_put ht _ rfl

theorem Numbered.moved_of_enter (h : Numbered p) (ht : p.task? t.id = some t) {phase : Phase α}
    {event : Event α} {outcomes : List (Outcome α)}
    (hmove : Move t event { t with phase } outcomes) :
    Transition p event (p.enter t.id phase, outcomes) := by
  obtain ⟨ht, -⟩ := h.task?_eq_some_iff.1 ht
  rw [h.enter_eq_put ht]
  exact .moved t _ ht hmove

theorem Numbered.moved_of_take (h : Numbered p) (ht : p.task? t.id = some t) {rest : List α}
    {phase : Phase α} {event : Event α} {outcomes : List (Outcome α)}
    (hmove : Move t event { t with queue := rest, phase } outcomes) :
    Transition p event (p.take t.id rest phase, outcomes) := by
  obtain ⟨ht, -⟩ := h.task?_eq_some_iff.1 ht
  rw [h.take_eq_put ht]
  exact .moved t _ ht hmove

/-- The task of a number has this number. -/
theorem task?_id (ht : p.task? id = some t) : t.id = id := by
  simpa using List.find?_some ht

/-- **What an event can do.** -/
theorem Numbered.transition (h : Numbered p) (event : Event α) :
    Transition p event (p.step event) := by
  cases event with
  | submit destination payload => exact .submitted destination payload
  | dial id =>
      simp only [step]
      split
      · next ht =>
        obtain rfl := task?_id ht
        exact h.moved_of_take ht (.dial _ _ rfl rfl)
      · exact .ignored _ (by simp)
  | dialed id wrote =>
      simp only [step]
      split
      · next ht =>
        obtain rfl := task?_id ht
        cases wrote with
        | true => exact h.moved_of_enter ht (.connect _ rfl)
        | false => exact h.moved_of_enter ht (.breakOff _ rfl)
      · exact .ignored _ (by simp)
  | undialed id =>
      simp only [step]
      split
      · next ht =>
        obtain rfl := task?_id ht
        exact h.moved_of_enter ht (.giveUp _ rfl)
      · exact .ignored _ (by simp)
  | write id wrote =>
      simp only [step]
      split
      · next ht =>
        obtain rfl := task?_id ht
        cases wrote with
        | true => exact h.moved_of_take ht (.write _ _ rfl rfl)
        | false => exact h.moved_of_take ht (.lose _ _ rfl rfl)
      · exact .ignored _ (by simp)
  | finish id =>
      simp only [step]
      split
      · next ht =>
        obtain rfl := task?_id ht
        exact h.moved_of_enter ht (.abandon _ rfl)
      · next ht =>
        obtain rfl := task?_id ht
        exact h.moved_of_enter ht (.finish (.inl rfl))
      · next ht =>
        obtain rfl := task?_id ht
        exact h.moved_of_enter ht (.finish (.inr rfl))
      · exact .ignored _ (by simp)
  | evict id =>
      simp only [step]
      split
      · next ht =>
        obtain rfl := task?_id ht
        exact .evicted _ (h.task?_eq_some_iff.1 ht).1 rfl
      · exact .ignored _ (by simp)
  | close => exact .closed

/-! ### What a move keeps -/

namespace Move

variable {event : Event α} {outcomes : List (Outcome α)}

/-- Only a task that has not come to its end moves. -/
theorem phase_ne (hm : Move t event t' outcomes) : t.phase ≠ .ending := by
  cases hm with
  | finish hphase => rcases hphase with hphase | hphase <;> simp [hphase]
  | _ => simp [*]

theorem follows (hm : Move t event t' outcomes) : t'.Follows t := by
  have hphase := hm.phase_ne
  cases hm <;> exact ⟨rfl, rfl, rfl, fun _ => hphase⟩

end Move

/-- **A move that a task can make is made.** -/
theorem Numbered.step_eq_of_move (h : Numbered p) (ht : t ∈ p.tasks) {event : Event α}
    {outcomes : List (Outcome α)} (hm : Move t event t' outcomes) :
    p.step event = (p.put t', outcomes) := by
  have htask : p.task? t.id = some t := h.task?_eq_some_iff.2 ⟨ht, rfl⟩
  have henter := h.enter_eq_put ht
  have htake := h.take_eq_put ht
  rcases t with ⟨id, destination, queue, accepting, phase⟩
  cases hm with
  | dial first rest hphase hqueue
  | write first rest hphase hqueue
  | lose first rest hphase hqueue =>
      cases hphase
      cases hqueue
      simp only [step, htask, ← htake, if_true, Bool.false_eq_true, if_false]
  | finish hphase =>
      rcases hphase with hphase | hphase
      all_goals
        cases hphase
        simp only [step, htask, ← henter]
  | _ first hphase =>
      cases hphase
      simp only [step, htask, ← henter, if_true, Bool.false_eq_true, if_false]

/-- A task that has come to its end evicts itself. -/
theorem Numbered.step_evict (h : Numbered p) (ht : t ∈ p.tasks) (hphase : t.phase = .ending) :
    p.step (.evict t.id) = p.evict t.id := by
  have htask : p.task? t.id = some t := h.task?_eq_some_iff.2 ⟨ht, rfl⟩
  rcases t with ⟨id, destination, queue, accepting, phase⟩
  cases hphase
  simp only [step, htask]

theorem Transition.changes {event : Event α} {result : Pool α × List (Outcome α)}
    (htransition : Transition p event result) (h : Orderly p) (hevent : event ≠ .close) :
    Changes p result.1 := by
  cases htransition with
  | submitted destination payload => exact h.submit_changes destination payload
  | moved t t' ht hmove => exact .single (.moved t t' ht hmove.follows)
  | evicted t ht hphase => exact h.evict_changes ht hphase
  | closed => exact absurd rfl hevent
  | ignored => exact .refl

/-- **An event is made of elementary changes.** -/
theorem Orderly.step_changes (h : Orderly p) {event : Event α} (hevent : event ≠ .close) :
    Changes p (p.step event).1 :=
  (h.transition event).changes h hevent

theorem Orderly.step (h : Orderly p) (event : Event α) : Orderly (p.step event).1 := by
  by_cases hevent : event = .close
  · rw [hevent]
    exact h.close
  · exact h.changes (h.step_changes hevent)

end Pool

end Framewire
