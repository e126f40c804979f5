/-
**Redialing always ends.**

A dial that fails makes its slot evict itself, and the eviction hands the queue to the pool again,
which opens a slot that dials again.  This goes on only as long as there are payloads: each slot
takes one of them before it dials, and drops it when the dial fails.  So a destination that does not
answer is dialed once for each payload in its queues, and then it is left alone.

To count what is left to do, every payload in a queue stands for three turns: a dial, its failure
and an eviction.  Acts for other destinations, and a slot that leaves the map, leave this *effort*
as it is; a turn takes one off; and as long as the destination has a task, one of its turns is due.

Main definitions:

* `Pool.leavesUnanswered`, `Pool.unanswered` — no dial of a destination succeeds, and none of its
  tasks is told to end before its dial does;
* `Pool.isDue`, `Pool.turns` — the acts that are due for a destination, and how many of them happen;
* `Pool.effort` — the number of turns that are left;
* `Pool.Declines` — what comes of the payloads for a destination whose dials fail.

Main results:

* `Pool.Failing.declines_act`, `Pool.Failing.declines_perform` — **each dial uses up one payload**;
* `Pool.Failing.exists_due` — a destination that has a task has a turn that is due;
* `Pool.settled_told_eq` — events settle payloads in the order in which they were submitted;
* `Pool.redialing_ends` — **redialing always ends**.
-/

import Framewire.Proofs.DialAccount
import Mathlib.Algebra.Order.Group.Nat

set_option autoImplicit false

namespace Framewire

namespace Pool

variable {α : Type} {p q r : Pool α} {t t' : Task α} {event : Event α} {a : Act α}
  {outcomes others : List (Outcome α)} {destination d : Endpoint}

/-! ### Tasks that wait -/

/-- A task that waits has something to dial for. -/
def Primed (p : Pool α) : Prop := ∀ t ∈ p.tasks, t.phase = .waiting → t.queue ≠ []

namespace Primed

theorem put (h : ∀ u ∈ p.tasks, u.id ≠ t.id → u.phase = .waiting → u.queue ≠ [])
    (ht : t.phase = .waiting → t.queue ≠ []) : Primed (p.put t) := by
  intro u hu hphase
  rcases mem_put.1 hu with ⟨hu, hne⟩ | ⟨rfl, -⟩
  · exact h u hu hne hphase
  · exact ht hphase

theorem submit (h : Primed p) (hp : Orderly p) (hopen : p.closed = false)
    (destination : Endpoint) (payload : α) : Primed (p.submit destination payload).1 := by
  obtain ⟨q, t, hl, hlookup⟩ := hp.exists_lookup destination
  rw [hl.submit_eq hp hopen hlookup]
  refine put (fun u hu hne hphase => ?_) (by simp [Task.receive])
  cases hl with
  | found => exact h u hu hphase
  | opened =>
      -- the new task is the one that receives the payload
      rcases List.mem_append.1 hu with hu | hu
      · exact h u hu hphase
      · obtain rfl := List.mem_singleton.1 hu
        exact absurd rfl hne

theorem submitAll (h : Primed p) (hp : Orderly p) (hopen : p.closed = false)
    (destination : Endpoint) (payloads : List α) :
    Primed (p.submitAll destination payloads).1 := by
  induction payloads generalizing p with
  | nil => exact h
  | cons payload payloads ih =>
      have hfirst := hp.submit_changes destination payload
      exact ih (h.submit hp hopen destination payload) (hp.changes hfirst)
        (hfirst.closed_eq.trans hopen)

theorem evict (h : Primed p) (hp : Orderly p) (hopen : p.closed = false) (ht : t ∈ p.tasks)
    (hphase : t.phase = .ending) : Primed (p.evict t.id).1 := by
  have hdetach := hp.detach_changes ht hphase
  have hprimed : Primed (p.detach t) := fun u hu => by
    rw [detach, mem_remove, tasks_unlink] at hu
    exact h u hu.1
  rw [hp.evict_eq ht, hopen, if_neg Bool.false_ne_true]
  exact hprimed.submitAll (hp.changes hdetach) (hdetach.closed_eq.trans hopen) _ _

/-- A task that has moved does not wait. -/
theorem act (h : Primed p) (hp : Orderly p) (hopen : p.closed = false)
    (ha : a ≠ .event .close) : Primed (p.act a) := by
  cases a with
  | unlink id =>
      intro t ht
      rw [tasks_act_unlink] at ht
      exact h t ht
  | event event =>
      have htransition := hp.transition event
      simp only [Pool.act]
      generalize p.step event = result at htransition
      cases htransition with
      | submitted destination payload => exact h.submit hp hopen destination payload
      | moved t t' ht hmove =>
          refine put (fun u hu _ => h u hu) fun hphase => ?_
          cases hmove <;> simp_all
      | evicted t ht hphase => exact h.evict hp hopen ht hphase
      | closed => exact absurd rfl ha
      | ignored => exact h

theorem perform (h : Primed p) (hp : Orderly p) (hopen : p.closed = false)
    {acts : List (Act α)} (hacts : Act.event .close ∉ acts) : Primed (p.perform acts) := by
  induction acts generalizing p with
  | nil => exact h
  | cons a acts ih =>
      have ha := (List.ne_of_not_mem_cons hacts).symm
      have hfirst := hp.act_changes ha
      exact ih (h.act hp hopen ha) (hp.changes hfirst) (hfirst.closed_eq.trans hopen)
        (List.not_mem_of_not_mem_cons hacts)

end Primed

/-! ### What is held for dials -/

/-- The payloads that the tasks of a destination hold while they dial. -/
def heldFor (p : Pool α) (d : Endpoint) : List α := (p.tasksFor d).flatMap Task.held

/-- The scale that takes the payload of a dial as it is. -/
def heldScale (α : Type) : Scale α (Multiset α) where
  phase
    | .dialing first => {first}
    | .waiting | .connected | .ending => 0
  payload _ := 0
  phase_waiting := rfl

theorem heldScale_task (t : Task α) : (heldScale α).task t = (t.held : Multiset α) := by
  have hqueue : (t.queue.map (heldScale α).payload).sum = 0 := by simp [heldScale]
  rw [Scale.task, hqueue, add_zero, Task.held, heldScale]
  cases t.phase <;> rfl

theorem weight_heldScale (p : Pool α) (d : Endpoint) :
    p.weight (heldScale α) d = (p.heldFor d : Multiset α) := by
  rw [weight, heldFor, coe_flatMap_tasks]
  exact congrArg List.sum (List.map_congr_left fun t _ => heldScale_task t)

theorem Task.held_of_ending (hphase : t.phase = .ending) : t.held = [] := by
  rw [Task.held, hphase]

theorem Task.length_held_le (t : Task α) : t.held.length ≤ 1 := by
  rw [Task.held]
  split <;> simp

/-- One payload has one order. -/
theorem eq_of_perm_of_length_le {l l' : List α} (h : l.Perm l') (hlength : l'.length ≤ 1) :
    l = l' := by
  match l', hlength with
  | [], _ => exact List.perm_nil.1 h
  | [_], _ => exact List.perm_singleton.1 h

namespace Orderly

/-- A task whose slot is in the map is the only one of its destination that can hold a payload. -/
theorem heldFor_eq (h : Orderly p) (hopen : p.closed = false) (ht : t ∈ p.tasks)
    (hphase : t.phase ≠ .ending) : p.heldFor t.destination = t.held := by
  refine eq_of_perm_of_length_le (Multiset.coe_eq_coe.1 ?_) t.length_held_le
  have hothers : (p.remove t.id).weight (heldScale α) t.destination = 0 := by
    refine List.sum_eq_zero fun m hm => ?_
    obtain ⟨u, hu, rfl⟩ := List.mem_map.1 hm
    obtain ⟨hu, hd⟩ := mem_tasksFor.1 hu
    obtain ⟨hu, hne⟩ := mem_remove.1 hu
    rw [heldScale_task, Task.held_of_ending, Multiset.coe_nil]
    by_contra huphase
    have hslot := h.slot_of_task hopen u hu huphase
    rw [hd, h.slot_of_task hopen t ht hphase, Option.some.injEq] at hslot
    exact hne hslot.symm
  rw [← weight_heldScale, h.weight_eq ht, heldScale_task, hothers, add_zero]

theorem length_heldFor_le (h : Orderly p) (hopen : p.closed = false) (d : Endpoint) :
    (p.heldFor d).length ≤ 1 := by
  by_cases hlive : ∃ t ∈ p.tasksFor d, t.phase ≠ .ending
  · obtain ⟨t, hmem, hphase⟩ := hlive
    obtain ⟨ht, rfl⟩ := mem_tasksFor.1 hmem
    rw [h.heldFor_eq hopen ht hphase]
    exact t.length_held_le
  · have hnil : p.heldFor d = [] := List.flatMap_eq_nil_iff.2 fun t ht => Task.held_of_ending <| by
      by_contra hphase
      exact hlive ⟨t, ht, hphase⟩
    rw [hnil]
    exact Nat.zero_le 1

end Orderly

/-! ### Destinations with one task -/

/-- A destination has no more than one task. -/
def Sole (p : Pool α) (d : Endpoint) : Prop := (p.tasksFor d).length ≤ 1

theorem Sole.tasksFor_eq (h : Sole p d) (ht : t ∈ p.tasksFor d) : p.tasksFor d = [t] := by
  rw [Sole] at h
  match htasks : p.tasksFor d, h, ht with
  | [u], _, ht => rw [List.mem_singleton.1 ht]

namespace Orderly

/-- A destination has one task when all its tasks have their slots in the map. -/
theorem sole_of_live (h : Orderly p) (hopen : p.closed = false)
    (hlive : ∀ t ∈ p.tasksFor d, t.phase ≠ .ending) : Sole p d := by
  rw [Sole]
  match htasks : p.tasksFor d with
  | [] => exact Nat.zero_le 1
  | [_] => exact Nat.le_refl 1
  | t :: u :: rest =>
      have ht : t ∈ p.tasksFor d := by simp [htasks]
      have hu : u ∈ p.tasksFor d := by simp [htasks]
      obtain ⟨ht', hd⟩ := mem_tasksFor.1 ht
      obtain ⟨hu', hd'⟩ := mem_tasksFor.1 hu
      have hslot := h.slot_of_task hopen t ht' (hlive t ht)
      rw [hd, ← hd', h.slot_of_task hopen u hu' (hlive u hu), Option.some.injEq] at hslot
      obtain rfl := h.eq_of_id hu' ht' hslot
      have hnodup : (p.tasksFor d).Nodup := h.nodup_tasks.filter _
      simp [htasks] at hnodup

theorem tasksFor_submit (h : Orderly p) (hopen : p.closed = false)
    (hlive : ∀ t ∈ p.tasksFor d, t.phase ≠ .ending) (payload : α) :
    ∃ t : Task α, (p.submit d payload).1.tasksFor d = [t] ∧ t.phase ≠ .ending ∧
      t.queue = p.queuedFor d ++ [payload] := by
  obtain ⟨q, t, hl, hlookup⟩ := h.exists_lookup d
  have hq : Orderly q := h.changes hl.changes
  have hmem : t ∈ q.tasksFor d := mem_tasksFor.2 ⟨hl.mem_tasks, hl.destination_eq⟩
  have hfound : (∀ u ∈ q.tasksFor d, u.phase ≠ .ending) ∧ q.queuedFor d = p.queuedFor d := by
    cases hl with
    | found => exact ⟨hlive, rfl⟩
    | opened =>
        rw [queuedFor, tasksFor_openSlot, if_pos rfl, List.forall_mem_append]
        exact ⟨⟨hlive, by simp [newTask]⟩, by simp [newTask, queuedFor]⟩
  have htasks := (hq.sole_of_live (hl.changes.closed_eq.trans hopen) hfound.1).tasksFor_eq hmem
  have hf := t.receive_follows payload
  rw [hl.submit_eq h hopen hlookup]
  refine ⟨t.receive payload, ?_, hfound.1 t hmem, ?_⟩
  · rw [hq.tasksFor_put hl.mem_tasks hf, htasks, List.map_singleton, if_pos hf.id_eq.symm]
  · rw [← hfound.2, queuedFor, htasks, List.flatMap_singleton, Task.receive]

/-- The payloads of an eviction come in the order of the queue. -/
theorem queuedFor_submitAll (h : Orderly p) (hopen : p.closed = false)
    (hlive : ∀ t ∈ p.tasksFor d, t.phase ≠ .ending) (payloads : List α) :
    Sole (p.submitAll d payloads).1 d ∧
      (p.submitAll d payloads).1.queuedFor d = p.queuedFor d ++ payloads := by
  induction payloads generalizing p with
  | nil => exact ⟨h.sole_of_live hopen hlive, (List.append_nil _).symm⟩
  | cons payload payloads ih =>
      have hfirst := h.submit_changes d payload
      obtain ⟨t, htasks, hphase, hqueue⟩ := h.tasksFor_submit hopen hlive payload
      have hothers := ih (h.changes hfirst) (hfirst.closed_eq.trans hopen)
        (by simpa [htasks] using hphase)
      refine ⟨hothers.1, hothers.2.trans ?_⟩
      rw [queuedFor, htasks, List.flatMap_singleton, hqueue, List.append_assoc]
      rfl

theorem queuedFor_evict (h : Orderly p) (hopen : p.closed = false) (ht : t ∈ p.tasks)
    (hphase : t.phase = .ending) (hsole : Sole p t.destination) :
    Sole (p.evict t.id).1 t.destination ∧
      (p.evict t.id).1.queuedFor t.destination = p.queuedFor t.destination := by
  have hdetach := h.detach_changes ht hphase
  have hmem : t ∈ p.tasksFor t.destination := mem_tasksFor.2 ⟨ht, rfl⟩
  have htasks := hsole.tasksFor_eq hmem
  have hnil : (p.detach t).tasksFor t.destination = [] := by
    have hperm := h.tasksFor_perm ht
    rw [htasks, List.perm_cons] at hperm
    rw [detach, tasksFor, Pool.remove, tasks_unlink]
    exact List.nil_perm.1 hperm
  rw [h.evict_eq ht, hopen, if_neg Bool.false_ne_true]
  obtain ⟨hsole', hqueued⟩ := (h.changes hdetach).queuedFor_submitAll
    (hdetach.closed_eq.trans hopen) (d := t.destination) (by simp [hnil]) t.queue
  refine ⟨hsole', hqueued.trans ?_⟩
  rw [queuedFor, hnil, queuedFor, htasks, List.flatMap_singleton]
  rfl

end Orderly

/-! ### Effort -/

/-- The turns that are left to a task before its eviction is over, and for each payload in its queue
a dial, its failure and an eviction. -/
def effortScale (α : Type) : Scale α Nat where
  phase
    | .waiting => 0
    | .dialing _ => 2
    | .connected | .ending => 1
  payload _ := 3
  phase_waiting := rfl

/-- The turns that are left to a destination whose dials fail. -/
def effort (p : Pool α) (d : Endpoint) : Nat := p.weight (effortScale α) d

/-- The scale that counts connections. -/
def connectionScale (α : Type) : Scale α Nat where
  phase
    | .connected => 1
    | .waiting | .dialing _ | .ending => 0
  payload _ := 0
  phase_waiting := rfl

theorem weight_connectionScale_eq_zero :
    p.weight (connectionScale α) d = 0 ↔ ∀ t ∈ p.tasksFor d, t.phase ≠ .connected := by
  rw [weight, List.sum_eq_zero_iff (M := Nat), List.forall_mem_map]
  refine forall₂_congr fun t _ => ?_
  rw [Scale.task, connectionScale]
  cases t.phase <;> simp

/-! ### Dials that fail -/

/-- Whether an act leaves a destination unanswered: no dial of it succeeds, and none of its tasks is
told to end before its dial does. -/
def leavesUnanswered (p : Pool α) (d : Endpoint) : Act α → Bool
  | .event (.dialed id _) => (p.task? id).all fun t => t.destination ≠ d
  | .event (.finish id) => (p.task? id).all fun t => t.hasDialed || t.destination ≠ d
  | _ => true

/-- Whether a destination is left unanswered while acts happen. -/
def unanswered (p : Pool α) (d : Endpoint) : List (Act α) → Bool
  | [] => true
  | a :: acts => p.leavesUnanswered d a && (p.act a).unanswered d acts

/-- Whether an act is the next turn of one of a destination's tasks: the dial of a task that waits
with a payload, the failure of a dial, or the eviction of a task that has come to its end. -/
def isDue (p : Pool α) (d : Endpoint) : Act α → Bool
  | .event (.dial id) =>
    match p.task? id with
    | some { phase := .waiting, queue := _ :: _, destination, .. } => destination = d
    | _ => false
  | .event (.undialed id) =>
    match p.task? id with
    | some { phase := .dialing _, destination, .. } => destination = d
    | _ => false
  | .event (.evict id) =>
    match p.task? id with
    | some { phase := .ending, destination, .. } => destination = d
    | _ => false
  | _ => false

/-- The number of turns that acts are for a destination. -/
def turns (p : Pool α) (d : Endpoint) : List (Act α) → Nat
  | [] => 0
  | a :: acts => (p.isDue d a).toNat + (p.act a).turns d acts

/-- An act is the next turn of a task. -/
inductive Task.Due (t : Task α) : Act α → Prop where
  | dial (first : α) (rest : List α) (hphase : t.phase = .waiting)
      (hqueue : t.queue = first :: rest) : t.Due (.event (.dial t.id))
  | undialed (first : α) (hphase : t.phase = .dialing first) : t.Due (.event (.undialed t.id))
  | evict (hphase : t.phase = .ending) : t.Due (.event (.evict t.id))

theorem Numbered.isDue_iff (h : Numbered p) :
    p.isDue d a = true ↔ ∃ t ∈ p.tasksFor d, t.Due a := by
  constructor
  · intro hdue
    unfold isDue at hdue
    split at hdue
    · split at hdue
      · next htask =>
        obtain ⟨ht, rfl⟩ := h.task?_eq_some_iff.1 htask
        exact ⟨_, mem_tasksFor.2 ⟨ht, of_decide_eq_true hdue⟩, .dial _ _ rfl rfl⟩
      · exact absurd hdue Bool.false_ne_true
    · split at hdue
      · next htask =>
        obtain ⟨ht, rfl⟩ := h.task?_eq_some_iff.1 htask
        exact ⟨_, mem_tasksFor.2 ⟨ht, of_decide_eq_true hdue⟩, .undialed _ rfl⟩
      · exact absurd hdue Bool.false_ne_true
    · split at hdue
      · next htask =>
        obtain ⟨ht, rfl⟩ := h.task?_eq_some_iff.1 htask
        exact ⟨_, mem_tasksFor.2 ⟨ht, of_decide_eq_true hdue⟩, .evict rfl⟩
      · exact absurd hdue Bool.false_ne_true
    · exact absurd hdue Bool.false_ne_true
  · rintro ⟨t, ht, hdue⟩
    obtain ⟨ht, hd⟩ := mem_tasksFor.1 ht
    have htask : p.task? t.id = some t := h.task?_eq_some_iff.2 ⟨ht, rfl⟩
    rcases t with ⟨id, destination, queue, accepting, phase⟩
    cases hdue with
    | dial first rest hphase hqueue =>
        cases hphase
        cases hqueue
        simpa only [isDue, htask] using decide_eq_true hd
    | undialed first hphase =>
        cases hphase
        simpa only [isDue, htask] using decide_eq_true hd
    | evict hphase =>
        cases hphase
        simpa only [isDue, htask] using decide_eq_true hd

/-! ### What is dropped -/

/-- Whether a payload is lost with a dial. -/
def Outcome.isUndialed : Outcome α → Bool
  | .undialed .. => true
  | _ => false

/-- The payloads that are lost with the dials of a destination, in order. -/
def undialedFor (d : Endpoint) (outcomes : List (Outcome α)) : List α :=
  (outcomes.filter fun outcome => outcome.isUndialed && outcome.destination = d).map Outcome.payload

theorem undialedFor_append (d : Endpoint) (outcomes others : List (Outcome α)) :
    undialedFor d (outcomes ++ others) = undialedFor d outcomes ++ undialedFor d others := by
  simp [undialedFor]

/-- What comes of the payloads for a destination on the way from a pool to another one, when so many
turns are taken and all dials fail: the payloads that leave the queues are those that are dialed
for, in the order of the queue if there is but one; each of them is dropped, in the order of the
dials, and no other payload is let go. -/
structure Declines (d : Endpoint) (p q : Pool α) (outcomes : List (Outcome α)) (turns : Nat) :
    Prop where
  queued : (p.queuedFor d : Multiset α) =
    (dialedFor d outcomes : Multiset α) + (q.queuedFor d : Multiset α)
  inOrder : Sole p d → Sole q d ∧ p.queuedFor d = dialedFor d outcomes ++ q.queuedFor d
  held : p.heldFor d ++ dialedFor d outcomes = undialedFor d outcomes ++ q.heldFor d
  settled : settled d outcomes = undialedFor d outcomes
  effort : turns + q.effort d = p.effort d

namespace Declines

theorem refl (d : Endpoint) (p : Pool α) : Declines d p p [] 0 where
  queued := (zero_add _).symm
  inOrder hsole := ⟨hsole, rfl⟩
  held := List.append_nil _
  settled := rfl
  effort := Nat.zero_add _

theorem trans {first second : Nat} (h : Declines d p q outcomes first)
    (h' : Declines d q r others second) :
    Declines d p r (outcomes ++ others) (first + second) where
  queued := by rw [h.queued, h'.queued, dialedFor_append, ← Multiset.coe_add, add_assoc]
  inOrder hsole := by
    obtain ⟨hsole, hqueued⟩ := h.inOrder hsole
    obtain ⟨hsole', hqueued'⟩ := h'.inOrder hsole
    refine ⟨hsole', ?_⟩
    rw [hqueued, hqueued', dialedFor_append, List.append_assoc]
  held := by
    rw [dialedFor_append, undialedFor_append, ← List.append_assoc, h.held, List.append_assoc,
      h'.held, List.append_assoc]
  settled := by rw [settled_append, h.settled, h'.settled, undialedFor_append]
  effort := by rw [Nat.add_assoc, h'.effort, h.effort]

/-- Outcomes that are about other destinations, or that payloads were taken, are no dials and let
nothing go. -/
theorem kinds_eq_nil (h : ∀ outcome ∈ outcomes, outcome.destination = d → outcome.isQueued = true) :
    dialedFor d outcomes = [] ∧ undialedFor d outcomes = [] ∧ Pool.settled d outcomes = [] := by
  rw [dialedFor, undialedFor, Pool.settled, filter_of_isQueued (fun _ _ _ => rfl) h,
    filter_of_isQueued (fun _ _ _ => rfl) h, filter_of_isQueued (fun _ _ _ => rfl) h]
  exact ⟨rfl, rfl, rfl⟩

/-- Nothing comes of acts that leave the tasks of the destination as they are. -/
theorem of_tasksFor_eq (htasks : q.tasksFor d = p.tasksFor d)
    (hquiet : ∀ outcome ∈ outcomes, outcome.destination = d → outcome.isQueued = true) :
    Declines d p q outcomes 0 := by
  obtain ⟨hdialed, hundialed, hsettled⟩ := kinds_eq_nil hquiet
  have hqueued : q.queuedFor d = p.queuedFor d := by rw [queuedFor, htasks, queuedFor]
  have hheld : q.heldFor d = p.heldFor d := by rw [heldFor, htasks, heldFor]
  refine ⟨?_, fun hsole => ⟨?_, ?_⟩, ?_, ?_, ?_⟩
  · rw [hdialed, hqueued, Multiset.coe_nil, zero_add]
  · rwa [Sole, htasks]
  · rw [hdialed, hqueued, List.nil_append]
  · rw [hdialed, hundialed, hheld, List.append_nil, List.nil_append]
  · rw [hsettled, hundialed]
  · rw [Nat.zero_add, Pool.effort, weight, htasks, Pool.effort, weight]

/-- A task of the destination moves on. -/
theorem put (h : Orderly p) (hopen : p.closed = false) (ht : t ∈ p.tasks)
    (hmove : Move t event t' outcomes)
    (hqueue : t.queue = dialedFor t.destination outcomes ++ t'.queue)
    (hheld : t.held ++ dialedFor t.destination outcomes =
      undialedFor t.destination outcomes ++ t'.held)
    (hsettled : Pool.settled t.destination outcomes = undialedFor t.destination outcomes)
    (heffort : 1 + (effortScale α).task t' = (effortScale α).task t) :
    Declines t.destination p (p.put t') outcomes 1 := by
  have hf := hmove.follows
  refine ⟨?_, fun hsole => ?_, ?_, hsettled, ?_⟩
  · obtain ⟨others, hbefore, hafter⟩ := h.weight_put ht hf (queueScale α)
    rw [← weight_queueScale, ← weight_queueScale, hbefore, hafter, queueScale_task,
      queueScale_task, hqueue, ← Multiset.coe_add, add_assoc]
  · have htasks := hsole.tasksFor_eq (mem_tasksFor.2 ⟨ht, rfl⟩)
    have htasks' : (p.put t').tasksFor t.destination = [t'] := by
      rw [h.tasksFor_put ht hf, htasks, List.map_singleton, if_pos hf.id_eq.symm]
    rw [Sole, queuedFor, queuedFor, htasks, htasks', List.flatMap_singleton, List.flatMap_singleton]
    exact ⟨Nat.le_refl 1, hqueue⟩
  · -- no other task of the destination holds a payload, neither before nor after
    obtain ⟨others, hbefore, hafter⟩ := h.weight_put ht hf (heldScale α)
    have hp : p.heldFor t.destination = t.held := h.heldFor_eq hopen ht hmove.phase_ne
    rw [weight_heldScale, heldScale_task] at hbefore hafter
    have hnone : others = 0 := by
      rw [hp] at hbefore
      exact left_eq_add.1 hbefore
    rw [hnone, add_zero, Multiset.coe_eq_coe] at hafter
    rw [hp, eq_of_perm_of_length_le hafter t'.length_held_le, hheld]
  · obtain ⟨others, hbefore, hafter⟩ := h.weight_put ht hf (effortScale α)
    rw [Pool.effort, Pool.effort, hbefore, hafter, ← Nat.add_assoc, heffort]

/-- A task of the destination evicts itself. -/
theorem evict (h : Orderly p) (hopen : p.closed = false) (ht : t ∈ p.tasks)
    (hphase : t.phase = .ending) :
    Declines t.destination p (p.evict t.id).1 (p.evict t.id).2 1 := by
  have hchanges := h.evict_changes ht hphase
  obtain ⟨hdialed, hundialed, hsettled⟩ := kinds_eq_nil (d := t.destination)
    fun outcome hmem _ => (h.quiet_evict hopen ht hphase).queued outcome hmem
  refine ⟨?_, fun hsole => ?_, ?_, ?_, ?_⟩
  · rw [hdialed, ← weight_queueScale, ← weight_queueScale, h.weight_evict hopen ht hphase]
    rfl
  · obtain ⟨hsole', hqueued⟩ := h.queuedFor_evict hopen ht hphase hsole
    rw [hdialed, hqueued]
    exact ⟨hsole', rfl⟩
  · have hperm := h.weight_evict hopen ht hphase (heldScale α)
    rw [weight_heldScale, weight_heldScale] at hperm
    have hperm := Multiset.coe_eq_coe.1 (hperm.trans (zero_add _))
    rw [hdialed, hundialed, List.append_nil, List.nil_append]
    exact eq_of_perm_of_length_le hperm
      ((h.changes hchanges).length_heldFor_le (hchanges.closed_eq.trans hopen) _)
  · rw [hsettled, hundialed]
  · exact (h.weight_evict hopen ht hphase (effortScale α)).symm

end Declines

/-! ### Turn after turn -/

/-- A pool that is open, in which a destination has no connection. -/
structure Failing (p : Pool α) (d : Endpoint) : Prop extends Orderly p where
  isOpen : p.closed = false
  primed : Primed p
  unconnected : ∀ t ∈ p.tasksFor d, t.phase ≠ .connected

theorem Move.destination_eq (hm : Move t event t' outcomes) :
    ∀ outcome ∈ outcomes, outcome.destination = t.destination := by
  cases hm <;> simp [Outcome.destination]

namespace Failing

/-- When no dial succeeds, a task of the destination moves only when it is due. -/
theorem due_of_move (h : Failing p d) (ht : t ∈ p.tasksFor d) (hmove : Move t event t' outcomes)
    (hunanswered : p.leavesUnanswered d (.event event) = true) : t.Due (.event event) := by
  obtain ⟨hmem, hd⟩ := mem_tasksFor.1 ht
  have htask : p.task? t.id = some t := h.task?_eq_some_iff.2 ⟨hmem, rfl⟩
  have hphase := h.unconnected t ht
  cases hmove with
  | dial first rest hphase hqueue => exact .dial first rest hphase hqueue
  | giveUp first hphase => exact .undialed first hphase
  | connect | breakOff => simp [leavesUnanswered, htask, hd] at hunanswered
  | write _ _ hconnected | lose _ _ hconnected => exact absurd hconnected hphase
  | abandon first hdialing =>
      simp [leavesUnanswered, htask, hd, Task.hasDialed, hdialing] at hunanswered
  | finish hfinish =>
      rcases hfinish with hwaiting | hconnected
      · simp [leavesUnanswered, htask, hd, Task.hasDialed, hwaiting] at hunanswered
      · exact absurd hconnected hphase

/-- An act that is not due leaves the tasks of the destination as they are. -/
theorem ignores (h : Failing p d) (ha : a ≠ .event .close) (hsubmitted : a.submitted d = [])
    (hunanswered : p.leavesUnanswered d a = true) (hdue : p.isDue d a = false) :
    (p.act a).tasksFor d = p.tasksFor d ∧
      ∀ outcome ∈ p.tells a, outcome.destination = d → outcome.isQueued = true := by
  have hnone : ¬∃ t ∈ p.tasksFor d, t.Due a := by
    rw [← h.isDue_iff, hdue]
    exact Bool.false_ne_true
  cases a with
  | unlink id => exact ⟨tasksFor_act_unlink p id d, by simp [tells]⟩
  | event event =>
      have htransition := h.transition event
      simp only [act, tells]
      generalize p.step event = result at htransition
      cases htransition with
      | submitted destination payload =>
          have hd : destination ≠ d := by
            rintro rfl
            simp [Act.submitted, Event.submitted] at hsubmitted
          exact ⟨h.tasksFor_submit_of_ne h.isOpen hd payload,
            fun outcome hmem _ => (h.quiet_submit h.isOpen _ _).queued outcome hmem⟩
      | moved t t' ht hmove =>
          have hd : t.destination ≠ d := fun hd => by
            have ht := mem_tasksFor.2 ⟨ht, hd⟩
            exact hnone ⟨t, ht, h.due_of_move ht hmove hunanswered⟩
          refine ⟨h.tasksFor_put_of_ne ht hmove.follows hd, fun outcome hmem houtcome => ?_⟩
          exact absurd ((hmove.destination_eq outcome hmem).symm.trans houtcome) hd
      | evicted t ht hphase =>
          have hd : t.destination ≠ d := fun hd =>
            hnone ⟨t, mem_tasksFor.2 ⟨ht, hd⟩, .evict hphase⟩
          exact ⟨h.tasksFor_evict_of_ne h.isOpen ht hphase hd,
            fun outcome hmem _ => (h.quiet_evict h.isOpen ht hphase).queued outcome hmem⟩
      | closed => exact absurd rfl ha
      | ignored => exact ⟨rfl, by simp⟩

/-- A turn that is due takes effort off. -/
theorem declines_of_due (h : Failing p d) (hmem : t ∈ p.tasksFor d) (hdue : t.Due a) :
    Declines d p (p.act a) (p.tells a) 1 := by
  obtain ⟨ht, rfl⟩ := mem_tasksFor.1 hmem
  cases hdue with
  | dial first rest hphase hqueue =>
      have hmove : Move t _ _ _ := .dial first rest hphase hqueue
      rw [act, tells, h.step_eq_of_move ht hmove]
      refine .put h.toOrderly h.isOpen ht hmove ?_ ?_ ?_ ?_ <;>
        simp [dialedFor, undialedFor, settled, Outcome.isDialed, Outcome.isUndialed,
          Outcome.isFinal, Outcome.destination, Outcome.payload, Task.held, Scale.task,
          effortScale, hphase, hqueue]
      omega
  | undialed first hphase =>
      have hmove : Move t _ _ _ := .giveUp first hphase
      rw [act, tells, h.step_eq_of_move ht hmove]
      refine .put h.toOrderly h.isOpen ht hmove ?_ ?_ ?_ ?_ <;>
        simp [dialedFor, undialedFor, settled, Outcome.isDialed, Outcome.isUndialed,
          Outcome.isFinal, Outcome.destination, Outcome.payload, Task.held, Scale.task,
          effortScale, hphase]
      omega
  | evict hphase =>
      rw [act, tells, h.step_evict ht hphase]
      exact .evict h.toOrderly h.isOpen ht hphase

theorem declines_act (h : Failing p d) (ha : a ≠ .event .close) (hsubmitted : a.submitted d = [])
    (hunanswered : p.leavesUnanswered d a = true) :
    Declines d p (p.act a) (p.tells a) (p.isDue d a).toNat := by
  cases hdue : p.isDue d a with
  | true =>
      obtain ⟨t, ht, hdue⟩ := h.isDue_iff.1 hdue
      exact h.declines_of_due ht hdue
  | false =>
      obtain ⟨htasks, hquiet⟩ := h.ignores ha hsubmitted hunanswered hdue
      exact .of_tasksFor_eq htasks hquiet

/-- A turn makes no connection. -/
theorem unconnected_of_due (h : Failing p d) (hmem : t ∈ p.tasksFor d) (hdue : t.Due a) :
    ∀ u ∈ (p.act a).tasksFor d, u.phase ≠ .connected := by
  obtain ⟨ht, rfl⟩ := mem_tasksFor.1 hmem
  have hput : ∀ t' : Task α, t'.phase ≠ .connected →
      ∀ u ∈ (p.put t').tasksFor t.destination, u.phase ≠ .connected := by
    intro t' hphase u hu
    obtain ⟨hu, hd⟩ := mem_tasksFor.1 hu
    rcases mem_put.1 hu with ⟨hu, -⟩ | ⟨rfl, -⟩
    · exact h.unconnected u (mem_tasksFor.2 ⟨hu, hd⟩)
    · exact hphase
  cases hdue with
  | dial first rest hphase hqueue =>
      rw [act, h.step_eq_of_move ht (.dial first rest hphase hqueue)]
      exact hput _ (by simp)
  | undialed first hphase =>
      rw [act, h.step_eq_of_move ht (.giveUp first hphase)]
      exact hput _ (by simp)
  | evict hphase =>
      have hnone := weight_connectionScale_eq_zero.2 h.unconnected
      rw [h.weight_evict h.isOpen ht hphase, Nat.add_eq_zero_iff] at hnone
      rw [act, h.step_evict ht hphase]
      exact weight_connectionScale_eq_zero.1 hnone.2

theorem act (h : Failing p d) (ha : a ≠ .event .close) (hsubmitted : a.submitted d = [])
    (hunanswered : p.leavesUnanswered d a = true) : Failing (p.act a) d where
  toOrderly := h.changes (h.act_changes ha)
  isOpen := (h.act_changes ha).closed_eq.trans h.isOpen
  primed := h.primed.act h.toOrderly h.isOpen ha
  unconnected := by
    cases hdue : p.isDue d a with
    | true =>
        obtain ⟨t, ht, hdue⟩ := h.isDue_iff.1 hdue
        exact h.unconnected_of_due ht hdue
    | false =>
        rw [(h.ignores ha hsubmitted hunanswered hdue).1]
        exact h.unconnected

/-- **Each dial uses up one payload**, whatever else happens meanwhile. -/
theorem declines_perform (h : Failing p d) {acts : List (Act α)} (hacts : Act.event .close ∉ acts)
    (hsubmitted : submittedBy d acts = []) (hunanswered : p.unanswered d acts = true) :
    Failing (p.perform acts) d ∧
      Declines d p (p.perform acts) (p.told acts) (p.turns d acts) := by
  induction acts generalizing p with
  | nil => exact ⟨h, .refl d p⟩
  | cons a acts ih =>
      have ha := (List.ne_of_not_mem_cons hacts).symm
      obtain ⟨hfirst, hothers⟩ := List.append_eq_nil_iff.1 hsubmitted
      obtain ⟨hfirst', hothers'⟩ := Bool.and_eq_true_iff.1 hunanswered
      obtain ⟨hfailing, hdeclines⟩ := ih (h.act ha hfirst hfirst')
        (List.not_mem_of_not_mem_cons hacts) hothers hothers'
      exact ⟨hfailing, (h.declines_act ha hfirst hfirst').trans hdeclines⟩

/-- **A task has a turn that is due**, since it has something to dial for as long as it waits. -/
theorem exists_due (h : Failing p d) (hmem : t ∈ p.tasksFor d) : ∃ a, t.Due a := by
  cases hphase : t.phase with
  | waiting =>
      obtain ⟨first, rest, hqueue⟩ :=
        List.exists_cons_of_ne_nil (h.primed t (mem_tasksFor.1 hmem).1 hphase)
      exact ⟨_, .dial first rest hphase hqueue⟩
  | dialing first => exact ⟨_, .undialed first hphase⟩
  | connected => exact absurd hphase (h.unconnected t hmem)
  | ending => exact ⟨_, .evict hphase⟩

theorem isDue_eq_false_iff (h : Failing p d) :
    (∀ a, p.isDue d a = false) ↔ p.tasksFor d = [] := by
  rw [List.eq_nil_iff_forall_not_mem]
  constructor
  · intro hnone t ht
    obtain ⟨a, hdue⟩ := h.exists_due ht
    exact absurd (hnone a) (by rw [h.isDue_iff.2 ⟨t, ht, hdue⟩]; simp)
  · intro hnone a
    rw [← Bool.not_eq_true, h.isDue_iff]
    rintro ⟨t, ht, -⟩
    exact hnone t ht

/-- The turns of a destination can be taken until it has no task. -/
theorem exists_end (h : Failing p d) :
    ∃ acts, Act.event .close ∉ acts ∧ submittedBy d acts = [] ∧ p.unanswered d acts = true ∧
      (p.perform acts).tasksFor d = [] := by
  -- induction on the effort: a turn that is due takes one off
  induction heffort : p.effort d using Nat.strongRecOn generalizing p with
  | ind effort ih =>
      subst heffort
      rcases List.eq_nil_or_concat (p.tasksFor d) with hnil | ⟨before, t, htasks⟩
      · exact ⟨[], List.not_mem_nil, rfl, rfl, hnil⟩
      · have ht : t ∈ p.tasksFor d := by simp [htasks]
        obtain ⟨a, hdue⟩ := h.exists_due ht
        have hact : a ≠ .event .close ∧ a.submitted d = [] ∧ p.leavesUnanswered d a = true := by
          cases hdue <;> exact ⟨by simp, rfl, rfl⟩
        obtain ⟨ha, hsubmitted, hunanswered⟩ := hact
        have hlt : (p.act a).effort d < p.effort d := by
          rw [← (h.declines_of_due ht hdue).effort]
          omega
        obtain ⟨acts, hacts, hnone, hothers, hend⟩ :=
          ih _ hlt (h.act ha hsubmitted hunanswered) rfl
        refine ⟨a :: acts, ?_, ?_, ?_, hend⟩
        · rw [List.mem_cons, not_or]
          exact ⟨ha.symm, hacts⟩
        · exact List.append_eq_nil_iff.2 ⟨hsubmitted, hnone⟩
        · exact Bool.and_eq_true_iff.2 ⟨hunanswered, hothers⟩

end Failing

/-- A destination without a task has no slot. -/
theorem Orderly.get?_eq_none (h : Orderly p) (hnil : p.tasksFor d = []) :
    p.slots.get? d = none := by
  cases hslot : p.slots.get? d with
  | none => rfl
  | some id =>
      obtain ⟨t, ht, -, hd⟩ := h.task_of_slot d id hslot
      have hmem := mem_tasksFor.2 ⟨ht, hd⟩
      rw [hnil] at hmem
      exact absurd hmem List.not_mem_nil

/-- If all acts are events, the payloads for a destination are settled in the order in which they were
submitted, and all of them are once the destination has no task. -/
theorem settled_told_eq {first more : List (Event α)} (hfirst : Event.close ∉ first)
    (hmore : Event.close ∉ more)
    (hnil : ((({} : Pool α).perform (first.map .event)).perform (more.map .event)).tasksFor d = []) :
    settled d (({} : Pool α).told (first.map .event)) ++
        settled d ((({} : Pool α).perform (first.map .event)).told (more.map .event)) =
      submitted d first ++ submitted d more := by
  rw [perform_map_event, perform_map_event] at hnil
  have hp : Tidy (({} : Pool α).run first).1 := tidy_empty.run hfirst
  have hq : Tidy ((({} : Pool α).run first).1.run more).1 := hp.run hmore
  have hbacklog : ((({} : Pool α).run first).1.run more).1.backlog d = [] := by
    rw [backlog, taskOf?, hq.toOrderly.get?_eq_none hnil]
    rfl
  have hbefore : submitted d first =
      settled d (({} : Pool α).run first).2 ++ (({} : Pool α).run first).1.backlog d :=
    tidy_empty.run_balance hfirst d
  have hafter := hp.run_balance hmore d
  rw [hbacklog, List.append_nil] at hafter
  rw [told_map_event, perform_map_event, told_map_event, hbefore, List.append_assoc, hafter]

/-! ### Main result -/

/-- **Redialing always ends.**  Whatever happened to a pool that is open, each slot dialed at most
once, and for a payload that its task took out of the queue; and what was dialed for is, together
with what is queued, some of what was submitted, so no payload that was dialed for is queued again,
and there were no more dials than submissions.

If a destination then has no connection, its dials fail and nothing is submitted for it, each turn
that its tasks take makes the effort smaller, and there is a turn to take as long as there are
tasks; the payloads that left the queues are those that were dialed for, and each of them is
dropped, in the order of the dials, before the next dial begins.  When no turn is left, the
destination has no slot, it was dialed as many times as there were payloads in its queues, and these
were dropped, in the order of the queue if it had one task.  If no slot left the map before its
eviction went on, what was dropped is what was submitted and not settled before, in the order in which
it was submitted.  This end can always be reached. -/
theorem redialing_ends (acts : List (Act α)) (hacts : Act.event .close ∉ acts) (d : Endpoint) :
    let p := ({} : Pool α).perform acts
    let before := ({} : Pool α).told acts
    (∀ slot, (dials slot before).length ≤ 1) ∧
      (∀ a slot payload, .dialed d slot payload ∈ p.tells a →
        ∃ t ∈ p.tasks, ∃ rest, t.id = slot ∧ t.destination = d ∧ t.phase = .waiting ∧
          t.queue = payload :: rest ∧
          p.act a = p.put { t with queue := rest, phase := .dialing payload }) ∧
      (dialedFor d before ++ p.queuedFor d).Subperm (submittedBy d acts) ∧
      ((submittedBy d acts).Nodup → (dialedFor d before ++ p.queuedFor d).Nodup) ∧
      (dialers d before).length ≤ (submittedBy d acts).length ∧
      ((∀ t ∈ p.tasksFor d, t.phase ≠ .connected) →
        ∀ later, Act.event .close ∉ later → submittedBy d later = [] →
          p.unanswered d later = true →
          let q := p.perform later
          let after := p.told later
          p.turns d later + q.effort d = p.effort d ∧
            ((∀ a, q.isDue d a = false) ↔ q.tasksFor d = []) ∧
            (dialers d after).length + (q.queuedFor d).length = (p.queuedFor d).length ∧
            p.heldFor d ++ dialedFor d after = undialedFor d after ++ q.heldFor d ∧
            (q.heldFor d).length ≤ 1 ∧
            settled d after = undialedFor d after ∧
            (q.tasksFor d = [] →
              q.slots.get? d = none ∧
                (dialers d after).length = (p.queuedFor d).length ∧
                undialedFor d after = p.heldFor d ++ dialedFor d after ∧
                (dialedFor d after).Perm (p.queuedFor d) ∧
                (Sole p d → dialedFor d after = p.queuedFor d) ∧
                ∀ first more : List (Event α), acts = first.map .event → later = more.map .event →
                  settled d before ++ undialedFor d after = submittedBy d acts) ∧
            ∃ more, Act.event .close ∉ more ∧ submittedBy d more = [] ∧
              q.unanswered d more = true ∧ (q.perform more).tasksFor d = []) := by
  intro p before
  have hchanges : Changes {} p := orderly_empty.perform_changes hacts
  have hp : Orderly p := orderly_empty.changes hchanges
  have hopen : p.closed = false := hchanges.closed_eq
  have hlogged : Logged p before := logged_empty.perform orderly_empty rfl hacts
  have hle : (dialedFor d before ++ p.queuedFor d).Subperm (submittedBy d acts) :=
    Multiset.coe_le.1 ((orderly_empty.dialedFor_perform rfl hacts d).trans (zero_add _).le)
  refine ⟨hlogged.length_le, fun a slot payload => hp.exists_dial hopen, hle, fun hnodup => ?_, ?_,
    fun hunconnected later hlater hsubmitted hunanswered => ?_⟩
  · exact Multiset.coe_nodup.1 (Multiset.nodup_of_le (Multiset.coe_le.2 hle) hnodup)
  · rw [length_dialers]
    exact (Nat.le_add_right _ _).trans (List.length_append.symm.le.trans hle.length_le)
  intro q after
  have hprimed : Primed ({} : Pool α) := by simp [Primed]
  have hfailing : Failing p d := ⟨hp, hopen, hprimed.perform orderly_empty rfl hacts, hunconnected⟩
  obtain ⟨hq, hdeclines⟩ : Failing q d ∧ Declines d p q after (p.turns d later) :=
    hfailing.declines_perform hlater hsubmitted hunanswered
  have hqueued : (p.queuedFor d).Perm (dialedFor d after ++ q.queuedFor d) :=
    Multiset.coe_eq_coe.1 hdeclines.queued
  have hlength := hqueued.length_eq
  rw [List.length_append, ← length_dialers] at hlength
  refine ⟨hdeclines.effort, hq.isDue_eq_false_iff, hlength.symm, hdeclines.held,
    hq.length_heldFor_le hq.isOpen d, hdeclines.settled, fun hnil => ?_, hq.exists_end⟩
  -- without a task there is neither a queue nor a dial
  have hempty : q.queuedFor d = [] := by rw [queuedFor, hnil, List.flatMap_nil]
  have hnone : q.heldFor d = [] := by rw [heldFor, hnil, List.flatMap_nil]
  rw [hempty, List.append_nil] at hqueued
  refine ⟨hq.get?_eq_none hnil, ?_, ?_, hqueued.symm, fun hsole => ?_, ?_⟩
  · rw [hlength, hempty, List.length_nil, Nat.add_zero]
  · rw [hdeclines.held, hnone, List.append_nil]
  · rw [(hdeclines.inOrder hsole).2, hempty, List.append_nil]
  · -- acts that are events tell what their run tells
    rintro first more rfl rfl
    have hsubmittedBy : ∀ events : List (Event α),
        submittedBy d (events.map .event) = submitted d events := fun _ => List.flatMap_map ..
    have hsettled := settled_told_eq (by simpa using hacts) (by simpa using hlater) hnil
    rw [← hsubmittedBy, ← hsubmittedBy, hsubmitted, List.append_nil] at hsettled
    rw [← hdeclines.settled]
    exact hsettled

/-- Three payloads are queued for a destination that does not answer, and one for another
destination that does; the slot of the first task leaves the map before its eviction goes on. -/
theorem redialing_ends_after_three_dials :
    let other : Endpoint := .v4 .unspecified 1
    let acts : List (Act Nat) :=
      [.event (.submit .unbound 10), .event (.submit .unbound 11), .event (.submit other 20),
        .event (.submit .unbound 12)]
    let later : List (Act Nat) :=
      [.event (.dial 1), .event (.dial 2), .event (.undialed 1), .unlink 1,
        .event (.dialed 2 true), .event (.evict 1), .event (.dial 3), .event (.undialed 3),
        .event (.finish 2), .event (.evict 3), .event (.dial 4), .event (.undialed 4),
        .event (.evict 4)]
    let p := ({} : Pool Nat).perform acts
    let q := p.perform later
    Act.event .close ∉ acts ∧ Act.event .close ∉ later ∧
      (∀ t ∈ p.tasksFor .unbound, t.phase ≠ .connected) ∧ submittedBy .unbound later = [] ∧
      p.unanswered .unbound later = true ∧ p.queuedFor .unbound = [10, 11, 12] ∧
      p.turns .unbound later = 9 ∧ p.effort .unbound = 9 ∧ q.slots.get? .unbound = none ∧
      dialers .unbound (p.told later) = [1, 3, 4] ∧
      dialedFor .unbound (p.told later) = [10, 11, 12] ∧
      undialedFor .unbound (p.told later) = [10, 11, 12] := by
  intro other acts later p q
  have hacts : Act.event .close ∉ acts := by simp [acts]
  have hlater : Act.event .close ∉ later := by simp [later]
  have htasks : p.tasksFor .unbound =
      [{ id := 1, destination := .unbound, queue := [10, 11, 12] }] := by decide
  have hunconnected : ∀ t ∈ p.tasksFor .unbound, t.phase ≠ .connected := by simp [htasks]
  have hsubmitted : submittedBy .unbound later = [] := by decide
  have hunanswered : p.unanswered .unbound later = true := by decide
  obtain ⟨-, -, -, -, -, hfailing⟩ := redialing_ends acts hacts .unbound
  obtain ⟨heffort, -, -, -, -, -, hend, -⟩ :=
    hfailing hunconnected later hlater hsubmitted hunanswered
  obtain ⟨hslot, -, hundialed, -, hdialed, -⟩ := hend (by decide)
  have hturns : p.turns .unbound later = 9 := by decide
  have hqueued : p.queuedFor .unbound = [10, 11, 12] := by decide
  have hheld : p.heldFor .unbound = [] := by decide
  have hsole : Sole p .unbound := by
    rw [Sole, htasks]
    exact Nat.le_refl 1
  have hdialed : dialedFor .unbound (p.told later) = [10, 11, 12] := by
    rw [← hqueued]
    exact hdialed hsole
  refine ⟨hacts, hlater, hunconnected, hsubmitted, hunanswered, hqueued, hturns, ?_, hslot,
    by decide, hdialed, ?_⟩
  · rw [← heffort, hturns]
    decide
  · rw [hundialed, hheld, hdialed]
    rfl

end Pool

end Framewire
