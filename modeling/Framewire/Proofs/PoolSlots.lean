/-
**The slots of a pool.**

An eviction takes its time: a slot may leave the map, other events may happen, and only then the
rest of the eviction follows.  Even so no destination ever has two connections.  Numbers of slots
are given out once, so that a slot in the map is told from the slots that it has replaced, and a
late eviction takes no slot out of the map but its own.

Main definitions:

* `Pool.Later` — what a pool has in common with what becomes of it;
* `Pool.Act`, `Pool.act`, `Pool.perform` — events, and evictions whose parts come one by one;
* `Pool.opened` — the numbers of the slots that acts open.

Main results:

* `Pool.perform_map_event` — events are performed as they are run;
* `Pool.opened_nodup` — no number is given out twice;
* `Pool.Orderly.slots_evict` — the eviction of a slot that was replaced leaves the map as it is;
* `Pool.one_connection_per_destination` — **there is at most one connection for each destination**.
-/

import Framewire.Proofs.PoolChanges

set_option autoImplicit false

namespace Framewire

namespace Pool

variable {α : Type} {p q r : Pool α} {t u : Task α} {destination : Endpoint} {id newer : Nat}

/-! ### Numbers -/

/-- What came later: the numbers that were given out before are used up, and a task that has one of
them was there before. -/
structure Later (p q : Pool α) : Prop where
  nextId_le : p.nextId ≤ q.nextId
  older : ∀ t ∈ q.tasks, t.id < p.nextId → ∃ u ∈ p.tasks, u.id = t.id

theorem Later.refl (p : Pool α) : Later p p := ⟨Nat.le_refl _, fun t ht _ => ⟨t, ht, rfl⟩⟩

theorem Later.trans (first : Later p q) (second : Later q r) : Later p r where
  nextId_le := Nat.le_trans first.nextId_le second.nextId_le
  older t ht hid := by
    obtain ⟨u, hu, huid⟩ := second.older t ht (Nat.lt_of_lt_of_le hid first.nextId_le)
    obtain ⟨v, hv, hvid⟩ := first.older u hu (huid ▸ hid)
    exact ⟨v, hv, hvid.trans huid⟩

theorem Change.later (hc : Change p q) : Later p q := by
  cases hc with
  | moved t t' =>
      refine ⟨Nat.le_refl _, fun v hv _ => ?_⟩
      rcases mem_put.1 hv with ⟨hv, -⟩ | ⟨rfl, v, hv, hvid⟩
      · exact ⟨v, hv, rfl⟩
      · exact ⟨v, hv, hvid⟩
  | opened destination =>
      refine ⟨Nat.le_succ _, fun v hv hid => ?_⟩
      rcases List.mem_append.1 hv with hv | hv
      · exact ⟨v, hv, rfl⟩
      · obtain rfl := List.mem_singleton.1 hv
        exact absurd hid (Nat.lt_irrefl _)
  | unlinked t =>
      refine ⟨Nat.le_of_eq (nextId_unlink ..).symm, fun v hv _ => ⟨v, ?_, rfl⟩⟩
      rwa [tasks_unlink] at hv
  | removed t => exact ⟨Nat.le_refl _, fun v hv _ => ⟨v, (mem_remove.1 hv).1, rfl⟩⟩

theorem Changes.later (hc : Changes p q) : Later p q := by
  induction hc with
  | refl => exact .refl p
  | tail _ hchange ih => exact ih.trans hchange.later

/-! ### Evictions that are overtaken -/

/-- What can happen when evictions take time: the slot of a task that has come to its end leaves the
map as the first part of the task's eviction, and something else may happen before the other parts
follow. -/
inductive Act (α : Type) where
  | event (event : Event α)
  | unlink (id : Nat)

/-- What an act makes of a pool. -/
def act (p : Pool α) : Act α → Pool α
  | .event event => (p.step event).1
  | .unlink id =>
    match p.task? id with
    | some { phase := .ending, destination, .. } => p.unlink destination id
    | _ => p

/-- What acts make of a pool. -/
def perform (p : Pool α) (acts : List (Act α)) : Pool α := acts.foldl act p

/-- Events are performed as they are run. -/
theorem perform_map_event (p : Pool α) (events : List (Event α)) :
    p.perform (events.map .event) = (p.run events).1 := by
  induction events generalizing p with
  | nil => rfl
  | cons event events ih => exact ih (p.step event).1

theorem Orderly.act_changes (h : Orderly p) {a : Act α} (ha : a ≠ .event .close) :
    Changes p (p.act a) := by
  cases a with
  | event event => exact h.step_changes fun hevent => ha (by rw [hevent])
  | unlink id =>
      simp only [act]
      split
      · next ht =>
        obtain rfl := task?_id ht
        exact .single (.unlinked _ (h.task?_eq_some_iff.1 ht).1 rfl)
      · exact .refl

theorem Orderly.perform_changes (h : Orderly p) {acts : List (Act α)}
    (hacts : Act.event .close ∉ acts) : Changes p (p.perform acts) := by
  induction acts generalizing p with
  | nil => exact .refl
  | cons a acts ih =>
      have ha := (List.ne_of_not_mem_cons hacts).symm
      have hacts := List.not_mem_of_not_mem_cons hacts
      have hfirst := h.act_changes ha
      exact hfirst.trans (ih (h.changes hfirst) hacts)

/-- The numbers of the slots that acts open, in order: a slot is opened when its task appears. -/
def opened (p : Pool α) : List (Act α) → List Nat
  | [] => []
  | a :: acts =>
    ((p.act a).tasks.map Task.id).filter (fun id => (p.task? id).isNone) ++ (p.act a).opened acts

/-- A number that a pool has given out is not given out again. -/
theorem le_of_mem_opened (h : Orderly p) {acts : List (Act α)} (hacts : Act.event .close ∉ acts)
    (hid : id ∈ p.opened acts) : p.nextId ≤ id := by
  induction acts generalizing p with
  | nil => simp [opened] at hid
  | cons a acts ih =>
      have ha := (List.ne_of_not_mem_cons hacts).symm
      have hacts := List.not_mem_of_not_mem_cons hacts
      have hfirst := h.act_changes ha
      rcases List.mem_append.1 hid with hid | hid
      · obtain ⟨hid, hnone⟩ := List.mem_filter.1 hid
        obtain ⟨t, ht, rfl⟩ := List.mem_map.1 hid
        -- a task with an older number was there before, so its slot was not opened now
        by_contra hlt
        obtain ⟨u, hu, huid⟩ := hfirst.later.older t ht (Nat.lt_of_not_le hlt)
        rw [h.task?_eq_some_iff.2 ⟨hu, huid⟩] at hnone
        exact absurd hnone (by simp)
      · exact Nat.le_trans hfirst.later.nextId_le (ih (h.changes hfirst) hacts hid)

/-- No number is given out twice. -/
theorem opened_nodup (h : Orderly p) {acts : List (Act α)} (hacts : Act.event .close ∉ acts) :
    (p.opened acts).Nodup := by
  induction acts generalizing p with
  | nil => exact List.nodup_nil
  | cons a acts ih =>
      have ha := (List.ne_of_not_mem_cons hacts).symm
      have hacts := List.not_mem_of_not_mem_cons hacts
      have hq : Orderly (p.act a) := h.changes (h.act_changes ha)
      refine List.nodup_append.2 ⟨hq.ids_nodup.filter _, ih hq hacts, ?_⟩
      -- what is opened now is below the next number, and what is opened later is not
      intro id hid id' hid'
      obtain ⟨t, ht, rfl⟩ := List.mem_map.1 (List.mem_filter.1 hid).1
      have hlt := hq.id_lt t ht
      have hle := le_of_mem_opened hq hacts hid'
      omega

/-- Every task that appears was opened. -/
theorem mem_opened {acts : List (Act α)} (ht : t ∈ (p.perform acts).tasks) :
    t.id ∈ p.tasks.map Task.id ∨ t.id ∈ p.opened acts := by
  induction acts generalizing p with
  | nil => exact .inl (List.mem_map_of_mem ht)
  | cons a acts ih =>
      rcases ih ht with hid | hid
      · -- the task is there after the first act: either it was there before, or it appeared
        cases htask : (p.task? t.id) with
        | none =>
            refine .inr (List.mem_append_left _ (List.mem_filter.2 ⟨hid, ?_⟩))
            rw [htask]
            rfl
        | some u =>
            exact .inl (List.mem_map.2 ⟨u, List.mem_of_find?_eq_some htask, task?_id htask⟩)
      · exact .inr (List.mem_append_right _ hid)

/-! ### The map -/

/-- A look-up leaves the slots that are there. -/
theorem Lookup.get?_of_get? (hl : Lookup p destination q t) {other : Endpoint}
    (hslot : p.slots.get? other = some id) : q.slots.get? other = some id := by
  cases hl with
  | found => exact hslot
  | opened hnone =>
      simp only [openSlot, Directory.get?_insert]
      rw [if_neg, hslot]
      rintro rfl
      rw [hslot] at hnone
      exact absurd hnone (by simp)

/-- A submission leaves the slots that are there. -/
theorem Orderly.get?_submit (h : Orderly p) (destination : Endpoint) (payload : α)
    {other : Endpoint} (hslot : p.slots.get? other = some id) :
    (p.submit destination payload).1.slots.get? other = some id := by
  by_cases hopen : p.closed = false
  · obtain ⟨q, t, hl, hlookup⟩ := h.exists_lookup destination
    rw [hl.submit_eq h hopen hlookup]
    exact hl.get?_of_get? hslot
  · rw [submit_of_closed _ _ _ (by simpa using hopen)]
    exact hslot

theorem Orderly.get?_submitAll (h : Orderly p) (destination : Endpoint) (payloads : List α)
    {other : Endpoint} (hslot : p.slots.get? other = some id) :
    (p.submitAll destination payloads).1.slots.get? other = some id := by
  induction payloads generalizing p with
  | nil => exact hslot
  | cons payload payloads ih =>
      exact ih (h.changes (h.submit_changes destination payload)) (h.get?_submit _ _ hslot)

/-- Submissions for a destination that has a slot leave the map as it is. -/
theorem Orderly.slots_submitAll (h : Orderly p) (hslot : p.slots.get? destination = some id)
    (payloads : List α) : (p.submitAll destination payloads).1.slots = p.slots := by
  induction payloads generalizing p with
  | nil => rfl
  | cons payload payloads ih =>
      have hfirst : (p.submit destination payload).1.slots = p.slots := by
        by_cases hopen : p.closed = false
        · obtain ⟨q, t, hl, hlookup⟩ := h.exists_lookup destination
          rw [hl.submit_eq h hopen hlookup]
          cases hl with
          | found => rfl
          | opened hnone =>
              rw [hnone] at hslot
              exact absurd hslot (by simp)
        · rw [submit_of_closed _ _ _ (by simpa using hopen)]
      refine (ih (h.changes (h.submit_changes destination payload)) ?_).trans hfirst
      rw [hfirst, hslot]

/-- An eviction takes no slot out of the map but its own. -/
theorem Orderly.get?_evict (h : Orderly p) (ht : t ∈ p.tasks) (hphase : t.phase = .ending)
    {other : Endpoint} (hslot : p.slots.get? other = some newer) (hne : newer ≠ t.id) :
    (p.evict t.id).1.slots.get? other = some newer := by
  have hdetach : (p.detach t).slots.get? other = some newer := by
    refine (get?_unlink p t.destination other t.id).trans ?_
    rw [if_neg, hslot]
    rintro ⟨hget, rfl⟩
    rw [hslot, Option.some.injEq] at hget
    exact hne hget
  rw [h.evict_eq ht]
  split
  · exact hdetach
  · exact (h.changes (h.detach_changes ht hphase)).get?_submitAll _ _ hdetach

/-- The eviction of a task whose destination has a newer slot leaves the map as it is. -/
theorem Orderly.slots_evict (h : Orderly p) (ht : t ∈ p.tasks) (hphase : t.phase = .ending)
    (hslot : p.slots.get? t.destination = some newer) (hne : newer ≠ t.id) :
    (p.evict t.id).1.slots = p.slots := by
  have hdetach : (p.detach t).slots = p.slots := by
    rw [detach, Pool.unlink, if_neg]
    · rfl
    · rw [hslot, Option.some.injEq]
      exact hne
  rw [h.evict_eq ht]
  split
  · exact hdetach
  · -- what is left in the queue finds the newer slot, so no slot is opened for it
    have hget : (p.detach t).slots.get? t.destination = some newer := by rw [hdetach, hslot]
    have hq : Orderly (p.detach t) := h.changes (h.detach_changes ht hphase)
    exact (hq.slots_submitAll hget _).trans hdetach

/-- A step that evicts is an eviction, or nothing. -/
theorem step_evict_cases (p : Pool α) (id : Nat) :
    p.step (.evict id) = (p, []) ∨ ∃ t, p.task? id = some t ∧ t.phase = .ending ∧
      p.step (.evict id) = p.evict id := by
  simp only [step]
  split
  · next ht => exact .inr ⟨_, ht, rfl, rfl⟩
  · exact .inl rfl

/-! ### Main result -/

/-- **There is at most one connection for each destination**, even when evictions are overtaken by
other events.  The map has at most one slot for a destination, and a task for each slot; no number
is given out twice; of the tasks of a destination at most one has begun to dial and not come to its
end, and it is the one whose slot is in the map; and an eviction takes no slot out of the map but
its own, and leaves the map as it is when the slot was already replaced. -/
theorem one_connection_per_destination (acts : List (Act α)) (hacts : Act.event .close ∉ acts) :
    let p := ({} : Pool α).perform acts
    (p.slots.entries.map Prod.fst).Nodup ∧
      (∀ destination id, p.slots.get? destination = some id →
        ∃ t ∈ p.tasks, t.id = id ∧ t.destination = destination) ∧
      (({} : Pool α).opened acts).Nodup ∧
      (∀ t ∈ p.tasks, t.id ∈ ({} : Pool α).opened acts) ∧
      (∀ t ∈ p.tasks, ∀ u ∈ p.tasks, t.isActive = true → u.isActive = true →
        t.destination = u.destination → t = u) ∧
      (∀ t ∈ p.tasks, t.isActive = true → p.slots.get? t.destination = some t.id) ∧
      (∀ id destination newer, p.slots.get? destination = some newer → newer ≠ id →
        (p.step (.evict id)).1.slots.get? destination = some newer) ∧
      ∀ t ∈ p.tasks, ∀ newer, p.slots.get? t.destination = some newer → newer ≠ t.id →
        (p.step (.evict t.id)).1.slots = p.slots := by
  intro p
  have hchanges : Changes {} p := orderly_empty.perform_changes hacts
  have hp : Orderly p := orderly_empty.changes hchanges
  have hactive : ∀ t ∈ p.tasks, t.isActive = true → p.slots.get? t.destination = some t.id := by
    intro t ht hactive
    refine hp.slot_of_task hchanges.closed_eq t ht fun hphase => ?_
    simp [Task.isActive, hphase] at hactive
  refine ⟨p.slots.nodup, hp.task_of_slot, opened_nodup orderly_empty hacts, fun t ht => ?_, ?_,
    hactive, ?_, ?_⟩
  · exact (mem_opened ht).resolve_left (by simp)
  · -- two tasks with a connection both have their slot in the map, so they have the same slot
    intro t ht u hu htactive huactive hdestination
    have hget := hactive t ht htactive
    rw [hdestination, hactive u hu huactive, Option.some.injEq] at hget
    exact (hp.eq_of_id hu ht hget).symm
  · intro id destination newer hslot hne
    rcases p.step_evict_cases id with hstep | ⟨t, ht, hphase, hstep⟩
    · rw [hstep, hslot]
    · obtain ⟨hmem, rfl⟩ := hp.task?_eq_some_iff.1 ht
      rw [hstep, hp.get?_evict hmem hphase hslot hne]
  · intro t ht newer hslot hne
    rcases p.step_evict_cases t.id with hstep | ⟨u, hu, hphase, hstep⟩
    · rw [hstep]
    · obtain ⟨hmem, hid⟩ := hp.task?_eq_some_iff.1 hu
      obtain rfl := hp.eq_of_id hmem ht hid
      rw [hstep, hp.slots_evict ht hphase hslot hne]

/-- A connection ends with a payload in its queue, and its slot has left the map when another
payload arrives: the slot that is opened for it is dialing when the first eviction goes on. -/
theorem one_connection_per_destination_overtaken :
    let acts : List (Act Nat) :=
      [.event (.submit .unbound 10), .event (.dial 1), .event (.dialed 1 true),
        .event (.submit .unbound 11), .event (.finish 1), .unlink 1,
        .event (.submit .unbound 12), .event (.dial 2)]
    let p := ({} : Pool Nat).perform acts
    let ended : Task Nat := { id := 1, destination := .unbound, queue := [11], phase := .ending }
    let dialing : Task Nat := { id := 2, destination := .unbound, phase := .dialing 12 }
    Act.event .close ∉ acts ∧ p.tasks = [ended, dialing] ∧
      ({} : Pool Nat).opened acts = [1, 2] ∧ ([1, 2] : List Nat).Nodup ∧
      p.slots.get? .unbound = some 2 ∧ (p.step (.evict 1)).1.slots = p.slots ∧
      (p.step (.evict 1)).1.tasks = [{ dialing with queue := [11] }] := by
  intro acts p ended dialing
  have hacts : Act.event .close ∉ acts := by simp [acts]
  have htasks : p.tasks = [ended, dialing] := by decide
  obtain ⟨-, -, hnodup, -, -, hactive, -, hevict⟩ := one_connection_per_destination acts hacts
  have hslot : p.slots.get? .unbound = some 2 := hactive dialing (by rw [htasks]; simp) rfl
  have hslots := hevict ended (by rw [htasks]; simp) 2 hslot (by decide)
  exact ⟨hacts, htasks, by decide, hnodup, hslot, hslots, by decide⟩

end Pool

end Framewire
