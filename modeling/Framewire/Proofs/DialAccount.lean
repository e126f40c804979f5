/-
**What dials use up.**

A slot dials at most once, and for a payload that it takes out of its queue for good.  So the dials
to a destination are paid for by the payloads that were submitted for it: those that were dialed for
and those that are still in queues are together some of the submitted ones.  This is so at every
moment of an open pool, also while evictions are overtaken by other events, when a destination may
have several tasks.

Queues are emptied into one another by evictions, so what is in them is weighed over all the tasks
of a destination.  How much a task weighs is up to a *scale*; whatever the scale, a payload that is
submitted adds its own weight, and a task that is evicted takes the weight of its phase away.

Main definitions:

* `Pool.tasksFor`, `Pool.queuedFor` — the tasks of a destination, and what is in their queues;
* `Pool.Scale`, `Pool.weight` — weights of tasks, and of the tasks of a destination together;
* `Pool.tells`, `Pool.told` — what acts tell;
* `Pool.dialedFor`, `Pool.submittedBy` — the payloads for which a destination was dialed, and those
  that acts submit for it.

Main results:

* `Pool.Orderly.weight_submit`, `Pool.Orderly.weight_evict` — what submissions and evictions weigh;
* `Pool.Logged.perform` — a slot dials at most once, also when evictions are overtaken;
* `Pool.Orderly.dialedFor_perform` — **payloads that were dialed for are in no queue again**.
-/

import Framewire.Proofs.PoolOrder
import Framewire.Proofs.PoolSlots
import Mathlib.Algebra.Order.BigOperators.Group.List
import Mathlib.Algebra.Order.Group.Multiset

set_option autoImplicit false

namespace Framewire

namespace Pool

variable {α : Type} {p q : Pool α} {t t' : Task α} {event : Event α}
  {outcomes others : List (Outcome α)} {destination d : Endpoint}

/-! ### The tasks of a destination -/

/-- The tasks of a destination, in the order of their numbers: the one of its slot, and those whose
slots have left the map already. -/
def tasksFor (p : Pool α) (d : Endpoint) : List (Task α) := p.tasks.filter (·.destination = d)

theorem mem_tasksFor : t ∈ p.tasksFor d ↔ t ∈ p.tasks ∧ t.destination = d := by
  simp [tasksFor]

@[simp] theorem tasksFor_unlink (p : Pool α) (destination d : Endpoint) (id : Nat) :
    (p.unlink destination id).tasksFor d = p.tasksFor d := by
  rw [tasksFor, tasks_unlink, tasksFor]

theorem tasksFor_openSlot (p : Pool α) (destination d : Endpoint) :
    (p.openSlot destination).tasksFor d =
      p.tasksFor d ++ if destination = d then [p.newTask destination] else [] := by
  rw [tasksFor, openSlot, List.filter_append, tasksFor]
  split
  · next hd => simp [newTask, hd]
  · next hd => simp [hd]

namespace Numbered

theorem nodup_tasks (h : Numbered p) : p.tasks.Nodup := h.ids_nodup.of_map

theorem tasksFor_put (h : Numbered p) (ht : t ∈ p.tasks) (hf : t'.Follows t) :
    (p.put t').tasksFor d = (p.tasksFor d).map fun u => if u.id = t'.id then t' else u := by
  rw [tasksFor, Pool.put, modify, List.filter_map, tasksFor]
  congr 1
  refine List.filter_congr fun u hu => ?_
  simp only [Function.comp_apply]
  split
  · next hid => rw [hf.destination_eq, h.eq_of_id hu ht (hid.trans hf.id_eq)]
  · rfl

/-- A task that moves is none of another destination's tasks. -/
theorem tasksFor_put_of_ne (h : Numbered p) (ht : t ∈ p.tasks) (hf : t'.Follows t)
    (hd : t.destination ≠ d) : (p.put t').tasksFor d = p.tasksFor d := by
  rw [h.tasksFor_put ht hf]
  refine (List.map_congr_left fun u hmem => if_neg fun hid => hd ?_).trans (List.map_id _)
  obtain ⟨hu, rfl⟩ := mem_tasksFor.1 hmem
  rw [h.eq_of_id hu ht (hid.trans hf.id_eq)]

theorem tasksFor_remove_of_ne (h : Numbered p) (ht : t ∈ p.tasks) (hd : t.destination ≠ d) :
    (p.remove t.id).tasksFor d = p.tasksFor d := by
  rw [tasksFor, Pool.remove, List.filter_comm]
  refine List.filter_eq_self.2 fun u hmem => decide_eq_true fun hid => hd ?_
  obtain ⟨hu, rfl⟩ := mem_tasksFor.1 hmem
  rw [h.eq_of_id hu ht hid]

/-- A task of a destination, and the others. -/
theorem tasksFor_perm (h : Numbered p) (ht : t ∈ p.tasks) :
    (p.tasksFor t.destination).Perm (t :: (p.remove t.id).tasksFor t.destination) := by
  have hself : t ∉ (p.remove t.id).tasksFor t.destination := fun hmem =>
    (mem_remove.1 (mem_tasksFor.1 hmem).1).2 rfl
  refine (List.perm_ext_iff_of_nodup (h.nodup_tasks.filter _)
    (List.nodup_cons.2 ⟨hself, (h.nodup_tasks.filter _).filter _⟩)).2 fun u => ?_
  refine mem_tasksFor.trans ?_
  rw [List.mem_cons, mem_tasksFor, mem_remove]
  constructor
  · rintro ⟨hu, hd⟩
    by_cases hid : u.id = t.id
    · exact .inl (h.eq_of_id hu ht hid)
    · exact .inr ⟨⟨hu, hid⟩, hd⟩
  · rintro (rfl | ⟨⟨hu, -⟩, hd⟩)
    · exact ⟨ht, rfl⟩
    · exact ⟨hu, hd⟩

end Numbered

/-- Putting a task in the place of another one leaves the others. -/
theorem remove_put (p : Pool α) (t : Task α) : (p.put t).remove t.id = p.remove t.id := by
  simp only [put, remove, modify, mk.injEq, and_true, true_and]
  induction p.tasks with
  | nil => rfl
  | cons u tasks ih =>
      rw [List.map_cons, List.filter_cons, List.filter_cons, ih]
      split <;> simp_all

theorem Lookup.tasksFor_of_ne (hl : Lookup p destination q t) (hd : destination ≠ d) :
    q.tasksFor d = p.tasksFor d := by
  cases hl with
  | found => rfl
  | opened => rw [tasksFor_openSlot, if_neg hd, List.append_nil]

namespace Orderly

/-- What is submitted for one destination leaves the tasks of the others as they are. -/
theorem tasksFor_submit_of_ne (h : Orderly p) (hopen : p.closed = false) (hd : destination ≠ d)
    (payload : α) : (p.submit destination payload).1.tasksFor d = p.tasksFor d := by
  obtain ⟨q, t, hl, hlookup⟩ := h.exists_lookup destination
  have hq : Orderly q := h.changes hl.changes
  rw [hl.submit_eq h hopen hlookup, ← hl.tasksFor_of_ne hd]
  have hne : t.destination ≠ d := hl.destination_eq.trans_ne hd
  exact hq.tasksFor_put_of_ne hl.mem_tasks (t.receive_follows payload) hne

theorem tasksFor_submitAll_of_ne (h : Orderly p) (hopen : p.closed = false) (hd : destination ≠ d)
    (payloads : List α) : (p.submitAll destination payloads).1.tasksFor d = p.tasksFor d := by
  induction payloads generalizing p with
  | nil => rfl
  | cons payload payloads ih =>
      have hfirst := h.submit_changes destination payload
      exact (ih (h.changes hfirst) (hfirst.closed_eq.trans hopen)).trans
        (h.tasksFor_submit_of_ne hopen hd payload)

theorem tasksFor_evict_of_ne (h : Orderly p) (hopen : p.closed = false) (ht : t ∈ p.tasks)
    (hphase : t.phase = .ending) (hd : t.destination ≠ d) :
    (p.evict t.id).1.tasksFor d = p.tasksFor d := by
  have hdetach := h.detach_changes ht hphase
  have htasks : (p.detach t).tasksFor d = p.tasksFor d := by
    rw [detach, (h.unlink ht hphase).tasksFor_remove_of_ne (by rwa [tasks_unlink]) hd,
      tasksFor_unlink]
  rw [h.evict_eq ht, hopen, if_neg Bool.false_ne_true, ← htasks]
  exact (h.changes hdetach).tasksFor_submitAll_of_ne (hdetach.closed_eq.trans hopen) hd _

end Orderly

/-! ### Scales -/

/-- A scale weighs the phases of tasks and the payloads in their queues.  A new task weighs
nothing. -/
structure Scale (α M : Type) [AddCommMonoid M] where
  phase : Phase α → M
  payload : α → M
  phase_waiting : phase .waiting = 0

section Scale

variable {M : Type} [AddCommMonoid M] {s : Scale α M}

/-- What a task weighs with its queue. -/
def Scale.task (s : Scale α M) (t : Task α) : M := s.phase t.phase + (t.queue.map s.payload).sum

/-- What the tasks of a destination weigh together. -/
def weight (p : Pool α) (s : Scale α M) (d : Endpoint) : M := ((p.tasksFor d).map s.task).sum

theorem Scale.task_receive (s : Scale α M) (t : Task α) (payload : α) :
    s.task (t.receive payload) = s.task t + s.payload payload := by
  simp [Scale.task, Task.receive, add_assoc]

theorem Scale.task_newTask (s : Scale α M) (p : Pool α) (destination : Endpoint) :
    s.task (p.newTask destination) = 0 := by
  simp [Scale.task, newTask, s.phase_waiting]

theorem Numbered.weight_eq (h : Numbered p) (ht : t ∈ p.tasks) (s : Scale α M) :
    p.weight s t.destination = s.task t + (p.remove t.id).weight s t.destination := by
  rw [weight, ((h.tasksFor_perm ht).map s.task).sum_eq, List.map_cons, List.sum_cons, weight]

/-- A task that moves makes a difference only by its own weight. -/
theorem Numbered.weight_put (h : Numbered p) (ht : t ∈ p.tasks) (hf : t'.Follows t)
    (s : Scale α M) : ∃ others, p.weight s t.destination = s.task t + others ∧
      (p.put t').weight s t.destination = s.task t' + others := by
  have hmem : t' ∈ (p.put t').tasks := mem_put.2 (.inr ⟨rfl, t, ht, hf.id_eq.symm⟩)
  refine ⟨(p.remove t.id).weight s t.destination, h.weight_eq ht s, ?_⟩
  rw [← hf.destination_eq, (h.put t').weight_eq hmem s, remove_put, hf.id_eq]

theorem Lookup.weight_eq (hl : Lookup p destination q t) (s : Scale α M) :
    q.weight s destination = p.weight s destination := by
  cases hl with
  | found => rfl
  | opened =>
      rw [weight, tasksFor_openSlot, if_pos rfl, List.map_append, List.sum_append,
        List.map_singleton, List.sum_singleton, s.task_newTask, add_zero, weight]

namespace Orderly

/-- A payload that is submitted adds its weight. -/
theorem weight_submit (h : Orderly p) (hopen : p.closed = false) (destination : Endpoint)
    (payload : α) (s : Scale α M) : (p.submit destination payload).1.weight s destination =
      p.weight s destination + s.payload payload := by
  obtain ⟨q, t, hl, hlookup⟩ := h.exists_lookup destination
  have hq : Orderly q := h.changes hl.changes
  obtain ⟨others, hbefore, hafter⟩ :=
    hq.weight_put hl.mem_tasks (t.receive_follows payload) s
  rw [hl.destination_eq] at hbefore hafter
  rw [hl.submit_eq h hopen hlookup, hafter, ← hl.weight_eq, hbefore, s.task_receive,
    add_right_comm]

theorem weight_submitAll (h : Orderly p) (hopen : p.closed = false) (destination : Endpoint)
    (payloads : List α) (s : Scale α M) :
    (p.submitAll destination payloads).1.weight s destination =
      p.weight s destination + (payloads.map s.payload).sum := by
  induction payloads generalizing p with
  | nil => exact (add_zero _).symm
  | cons payload payloads ih =>
      have hfirst := h.submit_changes destination payload
      refine (ih (h.changes hfirst) (hfirst.closed_eq.trans hopen)).trans ?_
      rw [h.weight_submit hopen, List.map_cons, List.sum_cons, add_assoc]

/-- An eviction takes away the weight of the phase, while the payloads find another task. -/
theorem weight_evict (h : Orderly p) (hopen : p.closed = false) (ht : t ∈ p.tasks)
    (hphase : t.phase = .ending) (s : Scale α M) :
    p.weight s t.destination = s.phase .ending + (p.evict t.id).1.weight s t.destination := by
  have hdetach := h.detach_changes ht hphase
  have hothers : (p.detach t).weight s t.destination = (p.remove t.id).weight s t.destination := by
    rw [weight, detach, tasksFor, Pool.remove, tasks_unlink]
    rfl
  rw [h.weight_eq ht s, h.evict_eq ht, hopen, if_neg Bool.false_ne_true,
    (h.changes hdetach).weight_submitAll (hdetach.closed_eq.trans hopen), hothers, Scale.task,
    hphase, add_assoc, add_comm (List.sum _)]

end Orderly

end Scale

/-! ### Queues -/

/-- What is in the queues of a destination's tasks. -/
def queuedFor (p : Pool α) (d : Endpoint) : List α := (p.tasksFor d).flatMap Task.queue

/-- The scale that takes the payloads of queues as they are. -/
def queueScale (α : Type) : Scale α (Multiset α) := ⟨fun _ => 0, fun a => {a}, rfl⟩

theorem queueScale_task (t : Task α) : (queueScale α).task t = (t.queue : Multiset α) := by
  refine (zero_add _).trans ?_
  induction t.queue with
  | nil => rfl
  | cons payload rest ih =>
      rw [List.map_cons, List.sum_cons, ih]
      rfl

/-- What lists come to one after the other is the sum of the lists, up to order. -/
theorem coe_flatMap_tasks (tasks : List (Task α)) (f : Task α → List α) :
    (tasks.flatMap f : Multiset α) = (tasks.map fun t => (f t : Multiset α)).sum := by
  induction tasks with
  | nil => rfl
  | cons t tasks ih =>
      rw [List.flatMap_cons, ← Multiset.coe_add, ih, List.map_cons, List.sum_cons]

theorem weight_queueScale (p : Pool α) (d : Endpoint) :
    p.weight (queueScale α) d = (p.queuedFor d : Multiset α) := by
  rw [weight, queuedFor, coe_flatMap_tasks]
  exact congrArg List.sum (List.map_congr_left fun t _ => queueScale_task t)

/-! ### Dials and submissions -/

/-- Whether a slot begins to dial. -/
def Outcome.isDialed : Outcome α → Bool
  | .dialed .. => true
  | _ => false

/-- The payloads for which a destination was dialed, in the order of the dials. -/
def dialedFor (d : Endpoint) (outcomes : List (Outcome α)) : List α :=
  (outcomes.filter fun outcome => outcome.isDialed && outcome.destination = d).map Outcome.payload

theorem dialedFor_append (d : Endpoint) (outcomes others : List (Outcome α)) :
    dialedFor d (outcomes ++ others) = dialedFor d outcomes ++ dialedFor d others := by
  simp [dialedFor]

/-- Every dial is one for a payload. -/
theorem length_dialers (d : Endpoint) (outcomes : List (Outcome α)) :
    (dialers d outcomes).length = (dialedFor d outcomes).length := by
  induction outcomes with
  | nil => rfl
  | cons outcome outcomes ih =>
      rw [← List.singleton_append, dialers_append, dialedFor_append, List.length_append,
        List.length_append, ih]
      congr 1
      cases outcome with
      | dialed destination slot payload =>
          by_cases hd : destination = d <;>
            simp [dialers, Outcome.dialer?, dialedFor, Outcome.isDialed, Outcome.destination, hd]
      | _ => rfl

theorem Quiet.dialedFor_eq_nil {result : Pool α × List (Outcome α)} (hq : Quiet p result)
    (d : Endpoint) : dialedFor d result.2 = [] := by
  rw [dialedFor, filter_of_isQueued (fun _ _ _ => rfl) fun outcome hmem _ =>
    hq.queued outcome hmem, List.map_nil]

theorem Move.dialedFor_eq_nil (hm : Move t event t' outcomes) (hd : t.destination ≠ d) :
    dialedFor d outcomes = [] := by
  cases hm <;> simp [dialedFor, Outcome.destination, hd]

/-- A payload that is dialed for comes out of the task's queue. -/
theorem Move.dialedFor_add_queue_le (hm : Move t event t' outcomes) :
    (dialedFor t.destination outcomes : Multiset α) + (t'.queue : Multiset α) ≤
      (t.queue : Multiset α) := by
  rw [Multiset.coe_add, Multiset.coe_le]
  cases hm with
  | dial first rest hphase hqueue =>
      rw [hqueue]
      simp [dialedFor, Outcome.isDialed, Outcome.destination, Outcome.payload, List.Subperm.refl]
  | write first rest hphase hqueue | lose first rest hphase hqueue =>
      rw [hqueue]
      exact (List.sublist_cons_self first rest).subperm
  | _ => exact .refl _

/-- What an act tells; that a slot leaves the map is not told. -/
def tells (p : Pool α) : Act α → List (Outcome α)
  | .event event => (p.step event).2
  | .unlink _ => []

/-- What acts tell, in order. -/
def told (p : Pool α) : List (Act α) → List (Outcome α)
  | [] => []
  | a :: acts => p.tells a ++ (p.act a).told acts

/-- Events tell what they tell when they are run. -/
theorem told_map_event (p : Pool α) (events : List (Event α)) :
    p.told (events.map .event) = (p.run events).2 := by
  induction events generalizing p with
  | nil => rfl
  | cons event events ih => exact congrArg ((p.step event).2 ++ ·) (ih (p.step event).1)

/-- The payload that an act submits for a destination. -/
def Act.submitted (d : Endpoint) : Act α → List α
  | .event event => event.submitted d
  | .unlink _ => []

/-- The payloads that acts submit for a destination, in order. -/
def submittedBy (d : Endpoint) (acts : List (Act α)) : List α := acts.flatMap (Act.submitted d)

/-- A slot that leaves the map leaves the tasks. -/
theorem tasks_act_unlink (p : Pool α) (id : Nat) : (p.act (.unlink id)).tasks = p.tasks := by
  simp only [act]
  split
  · exact tasks_unlink ..
  · rfl

theorem nextId_act_unlink (p : Pool α) (id : Nat) : (p.act (.unlink id)).nextId = p.nextId := by
  simp only [act]
  split
  · exact nextId_unlink ..
  · rfl

theorem tasksFor_act_unlink (p : Pool α) (id : Nat) (d : Endpoint) :
    (p.act (.unlink id)).tasksFor d = p.tasksFor d := by
  rw [tasksFor, tasks_act_unlink, tasksFor]

/-! ### Acts and their dials -/

theorem Logged.act (hlogged : Logged p outcomes) (h : Orderly p) (hopen : p.closed = false)
    {a : Act α} (ha : a ≠ .event .close) : Logged (p.act a) (outcomes ++ p.tells a) := by
  cases a with
  | event event =>
      exact (h.transition event).logged h hopen hlogged fun hevent => ha (by rw [hevent])
  | unlink id =>
      have hq : NoDial p (p.act (.unlink id)) := by
        refine ⟨Nat.le_of_eq (nextId_act_unlink p id).symm, fun t ht hphase => ?_,
          fun t ht hactive => ?_⟩ <;> rw [tasks_act_unlink] at ht
        · exact .inl ⟨t, ht, rfl, hphase⟩
        · exact ⟨t, ht, rfl, rfl, hactive⟩
      exact hlogged.keep hq (fun _ => rfl) (by simp [tells])

/-- **A slot dials at most once**, also when evictions are overtaken, as long as the pool is
open. -/
theorem Logged.perform (hlogged : Logged p outcomes) (h : Orderly p) (hopen : p.closed = false)
    {acts : List (Act α)} (hacts : Act.event .close ∉ acts) :
    Logged (p.perform acts) (outcomes ++ p.told acts) := by
  induction acts generalizing p outcomes with
  | nil => rwa [told, List.append_nil]
  | cons a acts ih =>
      have ha := (List.ne_of_not_mem_cons hacts).symm
      have hfirst := h.act_changes ha
      have hothers := ih (hlogged.act h hopen ha) (h.changes hfirst)
        (hfirst.closed_eq.trans hopen) (List.not_mem_of_not_mem_cons hacts)
      rwa [List.append_assoc] at hothers

namespace Orderly

/-- A slot dials when its task takes the payload out of the queue. -/
theorem exists_dial (h : Orderly p) (hopen : p.closed = false) {a : Act α} {slot : Nat}
    {payload : α} (hmem : .dialed d slot payload ∈ p.tells a) :
    ∃ t ∈ p.tasks, ∃ rest, t.id = slot ∧ t.destination = d ∧ t.phase = .waiting ∧
      t.queue = payload :: rest ∧
      p.act a = p.put { t with queue := rest, phase := .dialing payload } := by
  cases a with
  | event event =>
      obtain ⟨t, ht, t', moved, hmove, hmem⟩ := (h.transition event).exists_move h hopen hmem rfl
      have hstep := h.step_eq_of_move ht hmove
      cases hmove with
      | dial first rest hphase hqueue =>
          obtain ⟨rfl, rfl, rfl⟩ := by simpa using hmem
          exact ⟨t, ht, rest, rfl, rfl, hphase, hqueue, congrArg Prod.fst hstep⟩
      | _ => simp at hmem
  | unlink id => simp [tells] at hmem

/-- What is dialed for leaves the queues, and only what is submitted comes in. -/
theorem dialedFor_act (h : Orderly p) (hopen : p.closed = false) {a : Act α}
    (ha : a ≠ .event .close) (d : Endpoint) :
    (dialedFor d (p.tells a) : Multiset α) + ((p.act a).queuedFor d : Multiset α) ≤
      (p.queuedFor d : Multiset α) + (a.submitted d : Multiset α) := by
  cases a with
  | unlink id =>
      rw [queuedFor, tasksFor_act_unlink]
      exact le_of_eq ((zero_add _).trans (add_zero _).symm)
  | event event =>
      have hevent : event ≠ .close := fun hevent => ha (by rw [hevent])
      have htransition := h.transition event
      simp only [act, tells, Act.submitted, ← weight_queueScale]
      generalize p.step event = result at htransition
      cases htransition with
      | submitted destination payload =>
          rw [(h.quiet_submit hopen destination payload).dialedFor_eq_nil]
          refine (zero_add _).le.trans ?_
          by_cases hd : destination = d
          · subst hd
            rw [h.weight_submit hopen, Event.submitted, if_pos rfl]
            exact le_rfl
          · rw [weight, h.tasksFor_submit_of_ne hopen hd]
            exact Multiset.le_add_right _ _
      | moved t t' ht hmove =>
          refine le_trans ?_ (Multiset.le_add_right _ _)
          by_cases hd : t.destination = d
          · subst hd
            obtain ⟨others, hbefore, hafter⟩ := h.weight_put ht hmove.follows (queueScale α)
            rw [hbefore, hafter, queueScale_task, queueScale_task, ← add_assoc]
            exact add_le_add_left hmove.dialedFor_add_queue_le others
          · rw [hmove.dialedFor_eq_nil hd, weight, h.tasksFor_put_of_ne ht hmove.follows hd]
            exact (zero_add _).le
      | evicted t ht hphase =>
          refine le_trans ?_ (Multiset.le_add_right _ _)
          rw [(h.quiet_evict hopen ht hphase).dialedFor_eq_nil]
          refine (zero_add _).le.trans ?_
          by_cases hd : t.destination = d
          · subst hd
            rw [h.weight_evict hopen ht hphase (queueScale α)]
            exact (zero_add _).ge
          · rw [weight, h.tasksFor_evict_of_ne hopen ht hphase hd]
            exact le_rfl
      | closed => exact absurd rfl hevent
      | ignored => exact (zero_add _).le.trans (Multiset.le_add_right _ _)

/-- **Payloads that were dialed for are in no queue again**: together with what is in the queues
they are some of the payloads that were in the queues before and of those that were submitted. -/
theorem dialedFor_perform (h : Orderly p) (hopen : p.closed = false) {acts : List (Act α)}
    (hacts : Act.event .close ∉ acts) (d : Endpoint) :
    (dialedFor d (p.told acts) : Multiset α) + ((p.perform acts).queuedFor d : Multiset α) ≤
      (p.queuedFor d : Multiset α) + (submittedBy d acts : Multiset α) := by
  induction acts generalizing p with
  | nil => exact le_of_eq (add_comm _ _)
  | cons a acts ih =>
      have ha := (List.ne_of_not_mem_cons hacts).symm
      have hfirst := h.act_changes ha
      have hothers := ih (h.changes hfirst) (hfirst.closed_eq.trans hopen)
        (List.not_mem_of_not_mem_cons hacts)
      calc (dialedFor d (p.told (a :: acts)) : Multiset α)
            + ((p.perform (a :: acts)).queuedFor d : Multiset α)
          = (dialedFor d (p.tells a) : Multiset α)
            + ((dialedFor d ((p.act a).told acts) : Multiset α)
              + (((p.act a).perform acts).queuedFor d : Multiset α)) := by
            rw [told, dialedFor_append, ← Multiset.coe_add, add_assoc]
            rfl
        _ ≤ (dialedFor d (p.tells a) : Multiset α)
            + (((p.act a).queuedFor d : Multiset α) + (submittedBy d acts : Multiset α)) :=
            add_le_add_right hothers _
        _ ≤ (p.queuedFor d : Multiset α) + (a.submitted d : Multiset α)
            + (submittedBy d acts : Multiset α) := by
            rw [← add_assoc]
            exact add_le_add_left (h.dialedFor_act hopen ha d) _
        _ = (p.queuedFor d : Multiset α) + (submittedBy d (a :: acts) : Multiset α) := by
            rw [add_assoc, Multiset.coe_add]
            rfl

end Orderly

end Pool

end Framewire
