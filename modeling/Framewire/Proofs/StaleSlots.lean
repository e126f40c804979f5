/-
**Slots that have gone stale.**

As long as a task evicts itself in one step, every slot in the map has a task that takes payloads.
But nothing in a submission depends on that.  The task of a slot in the map may have shut its queue
already, or it may be gone altogether with the receiving end of the queue: then the first attempt of
a submission takes the stale slot out of the map and the second one opens a fresh slot.  Two
attempts are always enough, because nobody can have shut a queue that was opened in between.

Main definitions:

* `Pool.Consistent` — what numbers of slots and tasks are, and no more;
* `Pool.Incident`, `Pool.suffer` — events, and queues that are shut and tasks that are lost at any
  time;
* `Pool.openWith` — a fresh slot whose queue holds one payload.

Main results:

* `Pool.Consistent.suffer` — whatever happens, a pool stays consistent;
* `Pool.submit_of_accepts`, `Pool.Consistent.submit_of_stale` — what a submission does;
* `Pool.submit_finds_slot` — **a submission always finds a slot in an open pool**.
-/

import Framewire.Proofs.ClosedPool

set_option autoImplicit false

namespace Framewire

namespace Pool

variable {α : Type} {p : Pool α} {t : Task α} {d e : Endpoint} {id old : Nat} {payload : α}

/-! ### Consistent pools -/

/-- Tasks have different numbers, and so have slots; all numbers were given out; and the task of a
slot in the map belongs to the destination of the slot.  The slot need not have a task, and the task
need not take payloads. -/
structure Consistent (p : Pool α) : Prop extends Numbered p where
  id_lt : ∀ t ∈ p.tasks, t.id < p.nextId
  slot_lt : ∀ d id, p.slots.get? d = some id → id < p.nextId
  slot_injective : ∀ d e id, p.slots.get? d = some id → p.slots.get? e = some id → d = e
  destination_eq : ∀ t ∈ p.tasks, ∀ d, p.slots.get? d = some t.id → t.destination = d

theorem consistent_empty : Consistent ({} : Pool α) where
  ids_nodup := List.nodup_nil
  id_lt := by simp
  slot_lt := by simp
  slot_injective := by simp
  destination_eq := by simp

/-- The pool with a fresh slot for a destination, whose queue holds one payload. -/
def openWith (p : Pool α) (d : Endpoint) (payload : α) : Pool α :=
  { p with
    slots := p.slots.insert d p.nextId
    tasks := p.tasks ++ [{ id := p.nextId, destination := d, queue := [payload] }]
    nextId := p.nextId + 1 }

theorem get?_openWith (p : Pool α) (d e : Endpoint) (payload : α) :
    (p.openWith d payload).slots.get? e = if e = d then some p.nextId else p.slots.get? e :=
  Directory.get?_insert p.slots d e p.nextId

theorem mem_openWith : t ∈ (p.openWith d payload).tasks ↔
    t ∈ p.tasks ∨ t = { id := p.nextId, destination := d, queue := [payload] } := by
  rw [openWith, List.mem_append, List.mem_singleton]

namespace Consistent

/-- Changing a task keeps the order of numbers if the task keeps its number and its destination. -/
theorem put (h : Consistent p) {t' : Task α} (ht : t ∈ p.tasks) (hid : t'.id = t.id)
    (hdestination : t'.destination = t.destination) : Consistent (p.put t') where
  toNumbered := h.toNumbered.put t'
  id_lt u hu := by
    rcases mem_put.1 hu with ⟨hu, -⟩ | ⟨rfl, -⟩
    · exact h.id_lt u hu
    · rw [hid]
      exact h.id_lt t ht
  slot_lt := h.slot_lt
  slot_injective := h.slot_injective
  destination_eq u hu d hslot := by
    rcases mem_put.1 hu with ⟨hu, -⟩ | ⟨rfl, -⟩
    · exact h.destination_eq u hu d hslot
    · rw [hdestination]
      exact h.destination_eq t ht d (hid ▸ hslot)

theorem modify (h : Consistent p) (id : Nat) (f : Task α → Task α) (hid : ∀ t, (f t).id = t.id)
    (hdestination : ∀ t, (f t).destination = t.destination) : Consistent (p.modify id f) := by
  by_cases hmem : ∃ t ∈ p.tasks, t.id = id
  · obtain ⟨t, ht, rfl⟩ := hmem
    rw [h.modify_eq_put ht f (hid t)]
    exact h.put ht (hid t) (hdestination t)
  · -- no task has the number, so nothing changes
    have hsame : p.modify id f = p := by
      have htasks : (p.modify id f).tasks = p.tasks :=
        (List.map_congr_left fun t ht => if_neg fun heq => hmem ⟨t, ht, heq⟩).trans
          (List.map_id p.tasks)
      rcases p with ⟨slots, tasks, nextId, closed⟩
      simpa only [Pool.modify, mk.injEq, and_true, true_and] using htasks
    rwa [hsame]

theorem unlink (h : Consistent p) (d : Endpoint) (id : Nat) : Consistent (p.unlink d id) := by
  have hget : ∀ e old, (p.unlink d id).slots.get? e = some old → p.slots.get? e = some old := by
    intro e old hslot
    rw [get?_unlink] at hslot
    split at hslot
    · simp at hslot
    · exact hslot
  refine ⟨⟨?_⟩, fun t ht => ?_, fun e old hslot => ?_, fun e e' old hslot hslot' => ?_,
    fun t ht e hslot => ?_⟩
  · rw [tasks_unlink]
    exact h.ids_nodup
  · rw [tasks_unlink] at ht
    rw [nextId_unlink]
    exact h.id_lt t ht
  · rw [nextId_unlink]
    exact h.slot_lt e old (hget e old hslot)
  · exact h.slot_injective e e' old (hget e old hslot) (hget e' old hslot')
  · rw [tasks_unlink] at ht
    exact h.destination_eq t ht e (hget e t.id hslot)

theorem remove (h : Consistent p) (id : Nat) : Consistent (p.remove id) where
  toNumbered := h.toNumbered.remove id
  id_lt t ht := h.id_lt t (mem_remove.1 ht).1
  slot_lt := h.slot_lt
  slot_injective := h.slot_injective
  destination_eq t ht := h.destination_eq t (mem_remove.1 ht).1

theorem openWith (h : Consistent p) (d : Endpoint) (payload : α) :
    Consistent (p.openWith d payload) where
  ids_nodup := by
    rw [Pool.openWith, List.map_append, List.nodup_append]
    refine ⟨h.ids_nodup, List.nodup_singleton _, ?_⟩
    simp only [List.mem_map, List.map_cons, List.map_nil, List.mem_singleton]
    rintro _ ⟨t, ht, rfl⟩ _ rfl
    exact Nat.ne_of_lt (h.id_lt t ht)
  id_lt t ht := by
    rcases mem_openWith.1 ht with ht | rfl
    · exact Nat.lt_succ_of_lt (h.id_lt t ht)
    · exact Nat.lt_succ_self _
  slot_lt e old hslot := by
    rw [get?_openWith] at hslot
    split at hslot
    · rw [← Option.some.inj hslot]
      exact Nat.lt_succ_self _
    · exact Nat.lt_succ_of_lt (h.slot_lt e old hslot)
  slot_injective e e' old hslot hslot' := by
    rw [get?_openWith] at hslot hslot'
    -- the fresh number is no number of another slot
    split at hslot <;> split at hslot'
    · next he he' => rw [he, he']
    · rw [← Option.some.inj hslot] at hslot'
      exact absurd (h.slot_lt e' _ hslot') (Nat.lt_irrefl _)
    · rw [← Option.some.inj hslot'] at hslot
      exact absurd (h.slot_lt e _ hslot) (Nat.lt_irrefl _)
    · exact h.slot_injective e e' old hslot hslot'
  destination_eq t ht e hslot := by
    rw [get?_openWith] at hslot
    rcases mem_openWith.1 ht with ht | rfl
    · split at hslot
      · rw [Option.some.injEq] at hslot
        exact absurd (h.id_lt t ht) (by rw [← hslot]; exact Nat.lt_irrefl _)
      · exact h.destination_eq t ht e hslot
    · split at hslot
      · next he => exact he.symm
      · exact absurd (h.slot_lt e _ hslot) (Nat.lt_irrefl _)

end Consistent

/-! ### What a submission does -/

/-- A slot that takes payloads gets the payload behind its queue. -/
theorem submit_of_accepts (hopen : p.closed = false) (hslot : p.slots.get? d = some id)
    (haccepts : p.accepts id = true) (payload : α) :
    p.submit d payload = (p.enqueue id payload, [.queued d id payload]) := by
  simp [submit, submitAttempts, submitWithin, hopen, slotFor, hslot, haccepts]

namespace Consistent

theorem task?_openWith (h : Consistent p) (d : Endpoint) (payload : α) :
    (p.openWith d payload).task? p.nextId =
      some { id := p.nextId, destination := d, queue := [payload] } :=
  (h.openWith d payload).task?_eq_some_iff.2 ⟨mem_openWith.2 (.inr rfl), rfl⟩

/-- An attempt that finds no slot opens one, and a fresh slot takes the payload. -/
theorem submitWithin_of_none (h : Consistent p) (hopen : p.closed = false)
    (hnone : p.slots.get? d = none) (payload : α) (attempts : Nat) :
    p.submitWithin d payload (attempts + 1) =
      (p.openWith d payload, [.queued d p.nextId payload]) := by
  have hold : ∀ t ∈ p.tasks, t.id ≠ p.nextId := fun t ht => Nat.ne_of_lt (h.id_lt t ht)
  have hmiss : p.tasks.find? (fun t => decide (t.id = p.nextId)) = none :=
    List.find?_eq_none.2 fun t ht => by simpa using hold t ht
  have haccepts : (p.openSlot d).accepts p.nextId = true := by
    simp [accepts, task?, openSlot, List.find?_append, hmiss]
  have henqueue : (p.openSlot d).enqueue p.nextId payload = p.openWith d payload := by
    have hmap : p.tasks.map (fun t => if t.id = p.nextId then
        { t with queue := t.queue ++ [payload] } else t) = p.tasks :=
      (List.map_congr_left fun t ht => if_neg (hold t ht)).trans (List.map_id p.tasks)
    simp [enqueue, Pool.modify, openSlot, Pool.openWith, hmap]
  simp [submitWithin, hopen, slotFor, hnone, haccepts, henqueue]

/-- A slot that takes nothing leaves the map, and with none in the map a fresh slot takes the
payload: one attempt finds out, the next one succeeds. -/
theorem submit_of_stale (h : Consistent p) (hopen : p.closed = false)
    (hstale : ∀ id, p.slots.get? d = some id → p.accepts id = false) (payload : α) :
    p.submit d payload = (p.openWith d payload, [.queued d p.nextId payload]) := by
  cases hslot : p.slots.get? d with
  | none => exact h.submitWithin_of_none hopen hslot payload 1
  | some id =>
      have hfirst : p.submit d payload = (p.unlink d id).submitWithin d payload 1 := by
        rw [submit, submitAttempts, submitWithin]
        simp [hopen, slotFor, hslot, hstale id hslot]
      have hnone : (p.unlink d id).slots.get? d = none := by
        rw [get?_unlink, if_pos ⟨hslot, rfl⟩]
      have hfresh : (p.unlink d id).openWith d payload = p.openWith d payload := by
        -- giving a destination a slot takes away the one that it had
        simp [Pool.openWith, Pool.unlink, hslot, Directory.insert, Directory.erase]
      rw [hfirst, (h.unlink d id).submitWithin_of_none ((closed_unlink p d id).trans hopen) hnone,
        hfresh, nextId_unlink]

theorem submit (h : Consistent p) (d : Endpoint) (payload : α) :
    Consistent (p.submit d payload).1 := by
  by_cases hopen : p.closed = false
  · by_cases hstale : ∀ id, p.slots.get? d = some id → p.accepts id = false
    · rw [h.submit_of_stale hopen hstale]
      exact h.openWith d payload
    · simp only [not_forall, Bool.not_eq_false] at hstale
      obtain ⟨id, hslot, haccepts⟩ := hstale
      rw [submit_of_accepts hopen hslot haccepts]
      exact h.modify id _ (fun _ => rfl) fun _ => rfl
  · rwa [submit_of_closed _ _ _ (by simpa using hopen)]

theorem submitAll (h : Consistent p) (d : Endpoint) (payloads : List α) :
    Consistent (p.submitAll d payloads).1 := by
  induction payloads generalizing p with
  | nil => exact h
  | cons payload payloads ih => exact ih (h.submit d payload)

theorem close (h : Consistent p) : Consistent p.close :=
  ⟨⟨h.ids_nodup⟩, h.id_lt, by simp [Pool.close], by simp [Pool.close], by simp [Pool.close]⟩

theorem step (h : Consistent p) (event : Event α) : Consistent (p.step event).1 := by
  have htransition := h.transition event
  generalize p.step event = result at htransition
  cases htransition with
  | submitted d payload => exact h.submit d payload
  | moved t t' ht hmove =>
      exact h.put ht hmove.follows.id_eq hmove.follows.destination_eq
  | evicted t ht hphase =>
      have hdetach : Consistent (p.detach t) := (h.unlink t.destination t.id).remove t.id
      rw [h.evict_eq ht]
      split
      · exact hdetach
      · exact hdetach.submitAll t.destination t.queue
  | closed => exact h.close
  | ignored => exact h

end Consistent

/-! ### Queues that are shut and tasks that are lost -/

/-- What can happen to a pool whose tasks do as they please: besides the events, a slot may leave
the map, a queue may be shut and a task may be gone at any time. -/
inductive Incident (α : Type) where
  | event (event : Event α)
  | unlink (destination : Endpoint) (id : Nat)
  | shut (id : Nat)
  | lose (id : Nat)

/-- What an incident makes of a pool. -/
def meet (p : Pool α) : Incident α → Pool α
  | .event event => (p.step event).1
  | .unlink destination id => p.unlink destination id
  | .shut id => p.shut id
  | .lose id => p.remove id

/-- What incidents make of a pool. -/
def suffer (p : Pool α) (incidents : List (Incident α)) : Pool α := incidents.foldl meet p

/-- **Whatever happens, a pool stays consistent.** -/
theorem Consistent.suffer (h : Consistent p) (incidents : List (Incident α)) :
    Consistent (p.suffer incidents) := by
  induction incidents generalizing p with
  | nil => exact h
  | cons incident incidents ih =>
      refine ih (p := p.meet incident) ?_
      cases incident with
      | event event => exact h.step event
      | unlink d id => exact h.unlink d id
      | shut id => exact h.modify id _ (fun _ => rfl) fun _ => rfl
      | lose id => exact h.remove id

/-! ### Main result -/

/-- **A submission always finds a slot in an open pool**, whatever has become of the slots and tasks
of the pool.  The payload is taken, and is the last one in the queue of the slot that its
destination has then, which takes payloads.  If the destination had such a slot before, it is this
one, with the payload behind its queue, and no slot is opened.  Otherwise the slot that it may have
had is gone, and one slot is opened, with a number greater than all others, which holds this payload
alone.  The slots of other destinations, and all other tasks, are as they were.  A closed pool does
not change at all. -/
theorem submit_finds_slot :
    (∀ incidents : List (Incident α), Consistent (({} : Pool α).suffer incidents)) ∧
    (∀ (p : Pool α) (d : Endpoint) (payload : α), p.closed = true →
      p.submit d payload = (p, [.refused d payload])) ∧
    ∀ (p : Pool α) (d : Endpoint) (payload : α), Consistent p → p.closed = false →
      let q := (p.submit d payload).1
      q.closed = false ∧
      ∃ slot, (p.submit d payload).2 = [.queued d slot payload] ∧
        q.slots.get? d = some slot ∧
        (∃ t, q.task? slot = some t ∧ t.destination = d ∧ t.accepting = true ∧
          t.queue.getLast? = some payload) ∧
        (∀ old, p.slots.get? d = some old → p.accepts old = true →
          slot = old ∧ q.slots = p.slots ∧ q.nextId = p.nextId ∧
            q.tasks.map Task.id = p.tasks.map Task.id ∧
            ∃ t, p.task? old = some t ∧
              q.task? old = some { t with queue := t.queue ++ [payload] }) ∧
        ((∀ old, p.slots.get? d = some old → p.accepts old = false) →
          slot = p.nextId ∧ q.nextId = p.nextId + 1 ∧
            q.tasks = p.tasks ++ [{ id := slot, destination := d, queue := [payload] }] ∧
            (∀ t ∈ p.tasks, t.id < slot) ∧ (∀ e old, p.slots.get? e = some old → old < slot) ∧
            ∀ old, p.slots.get? d = some old → ∀ e, q.slots.get? e ≠ some old) ∧
        (∀ e, e ≠ d → q.slots.get? e = p.slots.get? e ∧
          ∀ id, p.slots.get? e = some id → q.task? id = p.task? id) ∧
        ∀ id, id ≠ slot → q.task? id = p.task? id := by
  refine ⟨consistent_empty.suffer, submit_of_closed, fun p d payload h hopen => ?_⟩
  by_cases hstale : ∀ old, p.slots.get? d = some old → p.accepts old = false
  · have htask? : ∀ id, id ≠ p.nextId → (p.openWith d payload).task? id = p.task? id := by
      intro id hne
      simp [task?, openWith, List.find?_append, hne.symm]
    rw [h.submit_of_stale hopen hstale payload]
    refine ⟨hopen, p.nextId, rfl, ?_, ?_, ?_, fun _ => ?_, fun e he => ?_, htask?⟩
    · rw [get?_openWith, if_pos rfl]
    · exact ⟨_, h.task?_openWith d payload, rfl, rfl, rfl⟩
    · intro old hslot haccepts
      rw [hstale old hslot] at haccepts
      simp at haccepts
    · refine ⟨rfl, rfl, rfl, h.id_lt, h.slot_lt, fun old hslot e he => ?_⟩
      rw [get?_openWith] at he
      split at he
      · rw [← Option.some.inj he] at hslot
        exact Nat.lt_irrefl _ (h.slot_lt d _ hslot)
      · next hne => exact hne (h.slot_injective e d old he hslot)
    · refine ⟨?_, fun id hslot => htask? id (Nat.ne_of_lt (h.slot_lt e id hslot))⟩
      rw [get?_openWith, if_neg he]
  · simp only [not_forall, Bool.not_eq_false] at hstale
    obtain ⟨old, hslot, haccepts⟩ := hstale
    obtain ⟨t, ht⟩ : ∃ t, p.task? old = some t := by
      cases ht : p.task? old with
      | none => simp [accepts, ht] at haccepts
      | some t => exact ⟨t, rfl⟩
    obtain ⟨hmem, rfl⟩ := h.task?_eq_some_iff.1 ht
    have haccepting : t.accepting = true := by simpa [accepts, ht] using haccepts
    have hq : p.enqueue t.id payload = p.put (t.receive payload) :=
      h.modify_eq_put hmem _ rfl
    have htask? : ∀ id, (p.put (t.receive payload)).task? id =
        if t.id = id then some (t.receive payload) else p.task? id :=
      fun id => h.task?_put hmem rfl
    rw [submit_of_accepts hopen hslot haccepts, hq]
    refine ⟨hopen, t.id, rfl, hslot, ?_, fun old' hslot' _ => ?_, fun hstale => ?_,
      fun e he => ⟨rfl, fun id hslot' => ?_⟩, fun id hne => ?_⟩
    · refine ⟨t.receive payload, ?_, h.destination_eq t hmem d hslot, haccepting, ?_⟩
      · rw [htask?, if_pos rfl]
      · exact List.getLast?_concat
    · obtain rfl : t.id = old' := Option.some.inj (hslot.symm.trans hslot')
      refine ⟨rfl, rfl, rfl, ids_put p _, t, ht, ?_⟩
      rw [htask?, if_pos rfl]
      rfl
    · rw [hstale t.id hslot] at haccepts
      simp at haccepts
    · rw [htask?, if_neg]
      rintro rfl
      exact he (h.slot_injective e d _ hslot' hslot)
    · rw [htask?, if_neg hne.symm]

/-- Of three destinations the first has a slot whose queue is shut, the second one whose task is
gone, and the third one a slot that takes payloads. -/
theorem submit_finds_slot_of_three :
    let d (port : UInt16) : Endpoint := .v4 .unspecified port
    let p := ({} : Pool Nat).suffer
      [.event (.submit (d 1) 10), .event (.submit (d 2) 20), .event (.submit (d 3) 30), .shut 1,
        .lose 2]
    Consistent p ∧ p.closed = false ∧
      (p.slots.get? (d 1) = some 1 ∧ p.accepts 1 = false ∧
        (p.submit (d 1) 11).1.tasks = p.tasks ++ [{ id := 4, destination := d 1, queue := [11] }] ∧
        ∀ e, (p.submit (d 1) 11).1.slots.get? e ≠ some 1) ∧
      (p.slots.get? (d 2) = some 2 ∧ p.task? 2 = none ∧
        (p.submit (d 2) 21).1.tasks = p.tasks ++ [{ id := 4, destination := d 2, queue := [21] }] ∧
        (p.submit (d 2) 21).1.slots.get? (d 3) = p.slots.get? (d 3)) ∧
      p.slots.get? (d 3) = some 3 ∧ p.accepts 3 = true ∧
        (p.submit (d 3) 31).1.slots = p.slots ∧ (p.submit (d 3) 31).2 = [.queued (d 3) 3 31] ∧
        ∃ t, p.task? 3 = some t ∧
          (p.submit (d 3) 31).1.task? 3 = some { t with queue := t.queue ++ [31] } := by
  intro d p
  obtain ⟨hconsistent, -, hsubmit⟩ := submit_finds_slot (α := Nat)
  have hp : Consistent p := hconsistent _
  have hopen : p.closed = false := by decide
  obtain ⟨-, slot₁, -, -, -, -, hfirst, -, -⟩ := hsubmit p (d 1) 11 hp hopen
  obtain ⟨-, slot₂, -, -, -, -, hsecond, hothers, -⟩ := hsubmit p (d 2) 21 hp hopen
  obtain ⟨-, slot₃, htold, -, -, hthird, -, -, -⟩ := hsubmit p (d 3) 31 hp hopen
  obtain ⟨rfl, -, htasks₁, -, -, hgone⟩ := hfirst (by decide)
  obtain ⟨rfl, -, htasks₂, -, -, -⟩ := hsecond (by decide)
  obtain ⟨rfl, hslots, -, -, hqueue⟩ := hthird 3 (by decide) (by decide)
  exact ⟨hp, hopen, ⟨by decide, by decide, htasks₁, hgone 1 (by decide)⟩,
    ⟨by decide, by decide, htasks₂, (hothers (d 3) (by decide)).1⟩, by decide, by decide, hslots,
    htold, hqueue⟩

end Pool

end Framewire
