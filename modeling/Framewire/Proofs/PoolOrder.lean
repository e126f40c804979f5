/-
**The order of a destination's payloads.**

A destination is served by one slot after the other.  Each of them dials at most once, and a
connection that has ended is not written to again; so what the destination receives, in the order in
which it was written, is what its first connection carried, then what the second one carried, and so
on.  The payloads that an eviction hands on to a new slot keep their places before everything that
is submitted later.  In this sense the order in which payloads were submitted survives evictions.

Main definitions:

* `Pool.dialers`, `Pool.writtenOver` — the slots that dialed a destination, and what was written
  over the connection of a slot;
* `Pool.fates` — what became of a destination's payloads;
* `Pool.Successive` — the task with the connection of a destination is the one that dialed last.

Main results:

* `Pool.Successive.run` — **a destination's connections follow each other**;
* `Pool.order_survives_evictions` — **payloads are written in the order in which they were
  submitted**, and the ones that are missing are lost or still wait.
-/

import Framewire.Proofs.PoolAccount

set_option autoImplicit false

namespace Framewire

namespace Pool

variable {α : Type} {p q : Pool α} {t t' : Task α} {event : Event α}
  {outcomes others : List (Outcome α)} {destination d : Endpoint} {slot : Nat} {payload : α}

/-! ### Connections and what they carry -/

/-- The slot that begins to dial a destination, if the outcome is that one does. -/
def Outcome.dialer? (d : Endpoint) : Outcome α → Option Nat
  | .dialed destination slot _ => if destination = d then some slot else none
  | _ => none

/-- The slots that dialed a destination, in the order of their dials. -/
def dialers (d : Endpoint) (outcomes : List (Outcome α)) : List Nat :=
  outcomes.filterMap (Outcome.dialer? d)

/-- The payload that was written over the connection of a slot, if the outcome is such a write. -/
def Outcome.writtenOver? (slot : Nat) : Outcome α → Option α
  | .written _ slot' payload => if slot' = slot then some payload else none
  | _ => none

/-- The payloads that were written over the connection of a slot, in order. -/
def writtenOver (slot : Nat) (outcomes : List (Outcome α)) : List α :=
  outcomes.filterMap (Outcome.writtenOver? slot)

/-- What became of the payloads for a destination of which nothing more becomes, in order. -/
def fates (d : Endpoint) (outcomes : List (Outcome α)) : List (Outcome α) :=
  outcomes.filter fun outcome => outcome.isFinal && outcome.destination = d

theorem dialers_append (d : Endpoint) (outcomes others : List (Outcome α)) :
    dialers d (outcomes ++ others) = dialers d outcomes ++ dialers d others :=
  List.filterMap_append

theorem writtenOver_append (slot : Nat) (outcomes others : List (Outcome α)) :
    writtenOver slot (outcomes ++ others) = writtenOver slot outcomes ++ writtenOver slot others :=
  List.filterMap_append

theorem written_append (d : Endpoint) (outcomes others : List (Outcome α)) :
    written d (outcomes ++ others) = written d outcomes ++ written d others := by
  simp [written]

theorem map_payload_fates (d : Endpoint) (outcomes : List (Outcome α)) :
    (fates d outcomes).map Outcome.payload = settled d outcomes := rfl

/-- The written ones among a destination's payloads. -/
theorem filter_isWritten_fates (d : Endpoint) (outcomes : List (Outcome α)) :
    ((fates d outcomes).filter Outcome.isWritten).map Outcome.payload = written d outcomes := by
  rw [fates, List.filter_filter, written]
  congr 2
  funext outcome
  cases outcome <;> simp [Outcome.isWritten, Outcome.isFinal]

/-- A slot that dialed a destination is one that has this destination among its dials. -/
theorem mem_dialers_iff : slot ∈ dialers d outcomes ↔ d ∈ dials slot outcomes := by
  simp only [dialers, dials, List.mem_filterMap]
  refine exists_congr fun outcome => and_congr_right fun _ => ?_
  cases outcome <;> simp [Outcome.dialer?, Outcome.dialOf?, and_comm]

/-- Each time that a slot dials a destination is one of its dials. -/
theorem count_dialers_le (slot : Nat) (d : Endpoint) (outcomes : List (Outcome α)) :
    (dialers d outcomes).count slot ≤ (dials slot outcomes).length := by
  induction outcomes with
  | nil => exact Nat.le_refl 0
  | cons outcome outcomes ih =>
      rw [← List.singleton_append, dialers_append, dials_append, List.count_append,
        List.length_append]
      refine Nat.add_le_add ?_ ih
      cases outcome with
      | dialed destination slot' payload =>
          simp only [dialers, dials, List.filterMap_cons, Outcome.dialer?, Outcome.dialOf?,
            List.filterMap_nil]
          by_cases hslot : slot' = slot
          · by_cases hd : destination = d <;> simp [hd, hslot]
          · by_cases hd : destination = d <;> simp [hd, hslot]
      | _ => exact Nat.le_refl 0

/-- The connections of a destination are different ones. -/
theorem Logged.nodup_dialers (h : Logged p outcomes) (d : Endpoint) : (dialers d outcomes).Nodup :=
  List.nodup_iff_count_le_one.2 fun slot =>
    Nat.le_trans (count_dialers_le slot d outcomes) (h.length_le slot)

/-- Nothing was written over a connection that was never dialed. -/
theorem Logged.writtenOver_eq_nil (h : Logged p outcomes) (hdials : dials slot outcomes = []) :
    writtenOver slot outcomes = [] := by
  refine List.filterMap_eq_nil_iff.2 fun outcome hmem => ?_
  cases outcome with
  | written d slot' a =>
      rw [Outcome.writtenOver?, if_neg]
      rintro rfl
      rw [h.written d slot' a hmem] at hdials
      exact absurd hdials (by simp)
  | _ => rfl

/-! ### One connection after the other -/

/-- The task that has a connection to a destination is the one that dialed it last, and what was
written to a destination is what its connections carried, one after the other. -/
structure Successive (p : Pool α) (outcomes : List (Outcome α)) : Prop where
  logged : Logged p outcomes
  last : ∀ t ∈ p.tasks, t.isActive = true →
    (dialers t.destination outcomes).getLast? = some t.id
  carried : ∀ d, written d outcomes = (dialers d outcomes).flatMap (writtenOver · outcomes)

theorem successive_empty : Successive ({} : Pool α) [] where
  logged := logged_empty
  last := by simp
  carried _ := rfl

namespace Successive

/-- Nothing changes where nothing is dialed and nothing is written. -/
theorem keep (h : Successive p outcomes) (hlogged : Logged q (outcomes ++ others))
    (hq : NoDial p q) (hdialers : ∀ d, dialers d others = [])
    (hwritten : ∀ d, written d others = []) (hover : ∀ slot, writtenOver slot others = []) :
    Successive q (outcomes ++ others) where
  logged := hlogged
  last t ht hactive := by
    obtain ⟨u, hu, hid, hdestination, huactive⟩ := hq.active t ht hactive
    rw [dialers_append, hdialers, List.append_nil, ← hid, ← hdestination]
    exact h.last u hu huactive
  carried d := by
    simp only [written_append, dialers_append, writtenOver_append, hdialers, hwritten, hover,
      List.append_nil]
    exact h.carried d

/-- Submissions are neither dials nor writes. -/
theorem keep_quiet (h : Successive p outcomes) (hlogged : Logged q (outcomes ++ others))
    (hq : Quiet p (q, others)) : Successive q (outcomes ++ others) := by
  refine h.keep hlogged hq.noDial (fun d => ?_) (fun d => ?_) fun slot => ?_
  · refine List.filterMap_eq_nil_iff.2 fun outcome hmem => ?_
    obtain ⟨d', slot, a, rfl⟩ := Outcome.exists_of_isQueued (hq.queued outcome hmem)
    rfl
  · have := written_sublist_settled d others
    rwa [settled_of_isQueued hq.queued, List.sublist_nil] at this
  · refine List.filterMap_eq_nil_iff.2 fun outcome hmem => ?_
    obtain ⟨d, slot', a, rfl⟩ := Outcome.exists_of_isQueued (hq.queued outcome hmem)
    rfl

/-- A slot begins to dial: its connection follows the ones before, and has carried nothing yet. -/
theorem dial (h : Successive p outcomes) (ht : t ∈ p.tasks)
    (hphase : t.phase = .waiting) (hf : t'.Follows t)
    (hlogged : Logged (p.put t') (outcomes ++ [.dialed t.destination t.id payload]))
    (hcurrent : ∀ u ∈ p.tasks, u.destination = t.destination → u = t) :
    Successive (p.put t') (outcomes ++ [.dialed t.destination t.id payload]) where
  logged := hlogged
  last u hu huactive := by
    rw [dialers_append]
    rcases mem_put.1 hu with ⟨hu, hne⟩ | ⟨rfl, -⟩
    · have hd : t.destination ≠ u.destination := by
        intro hd
        obtain rfl := hcurrent u hu hd.symm
        exact hne hf.id_eq.symm
      simp only [dialers, List.filterMap_cons, Outcome.dialer?, hd, if_false, List.filterMap_nil,
        List.append_nil]
      exact h.last u hu huactive
    · simp [dialers, Outcome.dialer?, hf.destination_eq, hf.id_eq]
  carried d := by
    have hover : ∀ slot, writtenOver slot (outcomes ++ [.dialed t.destination t.id payload]) =
        writtenOver slot outcomes := by
      intro slot
      rw [writtenOver_append]
      exact List.append_nil _
    have hwritten : written d (outcomes ++ [.dialed t.destination t.id payload]) =
        written d outcomes := by
      simp [written, Outcome.isWritten]
    have hnil : writtenOver t.id outcomes = [] :=
      h.logged.writtenOver_eq_nil (h.logged.waiting t ht hphase)
    simp only [hover, hwritten, h.carried d, dialers_append, List.flatMap_append]
    by_cases hd : t.destination = d
    · simp [dialers, Outcome.dialer?, hd, hnil]
    · simp [dialers, Outcome.dialer?, hd]

/-- A payload is written over the last connection of its destination. -/
theorem write (h : Successive p outcomes) (ht : t ∈ p.tasks) (hactive : t.isActive = true)
    (hq : NoDial p q)
    (hlogged : Logged q (outcomes ++ [.written t.destination t.id payload])) :
    Successive q (outcomes ++ [.written t.destination t.id payload]) where
  logged := hlogged
  last u hu huactive := by
    obtain ⟨v, hv, hid, hdestination, hvactive⟩ := hq.active u hu huactive
    rw [dialers_append, ← hid, ← hdestination]
    exact (congrArg List.getLast? (List.append_nil _)).trans (h.last v hv hvactive)
  carried d := by
    have hdialers : dialers d (outcomes ++ [.written t.destination t.id payload]) =
        dialers d outcomes := by
      rw [dialers_append]
      exact List.append_nil _
    have hother : ∀ slot, slot ≠ t.id →
        writtenOver slot (outcomes ++ [.written t.destination t.id payload]) =
          writtenOver slot outcomes := by
      intro slot hne
      simp [writtenOver, Outcome.writtenOver?, hne.symm]
    have hself : writtenOver t.id (outcomes ++ [.written t.destination t.id payload]) =
        writtenOver t.id outcomes ++ [payload] := by
      simp [writtenOver, Outcome.writtenOver?]
    rw [hdialers, written_append, h.carried d]
    by_cases hd : t.destination = d
    · -- the slots before the last one are others, and the last one carries the payload as well
      subst hd
      obtain ⟨before, hbefore⟩ := List.getLast?_eq_some_iff.1 (h.last t ht hactive)
      have hnodup := h.logged.nodup_dialers t.destination
      rw [hbefore] at hnodup ⊢
      have hmem : t.id ∉ before := fun hmem =>
        (List.nodup_append.1 hnodup).2.2 t.id hmem t.id (List.mem_singleton_self _) rfl
      have hcongr : before.flatMap
          (writtenOver · (outcomes ++ [.written t.destination t.id payload])) =
            before.flatMap (writtenOver · outcomes) :=
        List.flatMap_congr fun slot hslot => hother slot fun heq => hmem (heq ▸ hslot)
      rw [List.flatMap_append, List.flatMap_append, hcongr, List.flatMap_singleton,
        List.flatMap_singleton, hself, List.append_assoc]
      simp [written, Outcome.isWritten, Outcome.destination, Outcome.payload]
    · -- the slot of the task has not dialed this destination
      have hcongr : (dialers d outcomes).flatMap
          (writtenOver · (outcomes ++ [.written t.destination t.id payload])) =
            (dialers d outcomes).flatMap (writtenOver · outcomes) := by
        refine List.flatMap_congr fun slot hslot => hother slot ?_
        rintro rfl
        rw [mem_dialers_iff, h.logged.active t ht hactive, List.mem_singleton] at hslot
        exact hd hslot.symm
      rw [hcongr]
      simp [written, Outcome.isWritten, Outcome.destination, hd]

theorem move (h : Successive p outcomes) (hp : Tidy p) (ht : t ∈ p.tasks)
    (hm : Move t event t' others) : Successive (p.put t') (outcomes ++ others) := by
  have hf := hm.follows
  have hlogged := h.logged.move hp.toOrderly ht hm
  cases hm with
  | dial first rest hphase =>
      exact h.dial ht hphase hf hlogged fun u hu => hp.eq_of_destination hu ht
  | connect first hphase =>
      have hactive : t.isActive = true := by rw [Task.isActive, hphase]
      exact h.write ht hactive (.put ht hf (by simp) fun _ => hactive) hlogged
  | write first rest hphase =>
      have hactive : t.isActive = true := by rw [Task.isActive, hphase]
      exact h.write ht hactive (.put ht hf id id) hlogged
  | _ =>
      -- the task comes to its end
      refine h.keep hlogged (.put ht hf (by simp) (by simp [Task.isActive])) (fun _ => ?_)
        (fun _ => ?_) fun _ => ?_
      all_goals simp [dialers, Outcome.dialer?, written, Outcome.isWritten, writtenOver,
        Outcome.writtenOver?]

end Successive

theorem Transition.successive {result : Pool α × List (Outcome α)}
    (htransition : Transition p event result) (h : Tidy p) (hsuccessive : Successive p outcomes)
    (hevent : event ≠ .close) : Successive result.1 (outcomes ++ result.2) := by
  have hlogged := htransition.logged h.toOrderly h.isOpen hsuccessive.logged hevent
  cases htransition with
  | submitted destination payload =>
      exact hsuccessive.keep_quiet hlogged (h.quiet_submit h.isOpen destination payload)
  | moved t t' ht hmove => exact hsuccessive.move h ht hmove
  | evicted t ht hphase =>
      exact hsuccessive.keep_quiet hlogged (h.quiet_evict h.isOpen ht hphase)
  | closed => exact absurd rfl hevent
  | ignored => rwa [List.append_nil]

/-- **A destination's connections follow each other**, as long as the pool is open. -/
theorem Successive.run (hsuccessive : Successive p outcomes) (h : Tidy p)
    {events : List (Event α)} (hevents : Event.close ∉ events) :
    Successive (p.run events).1 (outcomes ++ (p.run events).2) := by
  induction events generalizing p outcomes with
  | nil => rwa [run_nil, List.append_nil]
  | cons event events ih =>
      have hevent := (List.ne_of_not_mem_cons hevents).symm
      have hfirst := (h.transition event).successive h hsuccessive hevent
      have hothers := ih hfirst (h.step hevent) (List.not_mem_of_not_mem_cons hevents)
      rwa [List.append_assoc] at hothers

/-! ### Main result -/

/-- **Payloads are written in the order in which they were submitted**, over however many
connections.  What was written to a destination is what its connections carried, one connection
after the other, and it is a part of what was submitted for it, in the same order.  Of the payloads
that were submitted, position by position, the first ones have met their fates, the next one may be
held for a dial, and the others are queued; and a fate is to be written, or to be lost with a dial
or a write that failed. -/
theorem order_survives_evictions (events : List (Event α))
    (hevents : ({} : Pool α).undisturbed events = true) (d : Endpoint) :
    let p := (({} : Pool α).run events).1
    let outcomes := (({} : Pool α).run events).2
    written d outcomes = (dialers d outcomes).flatMap (writtenOver · outcomes) ∧
      (dialers d outcomes).Nodup ∧
      (written d outcomes).Sublist (submitted d events) ∧
      submitted d events =
        (fates d outcomes).map Outcome.payload ++ (p.held d ++ p.queued d) ∧
      written d outcomes = ((fates d outcomes).filter Outcome.isWritten).map Outcome.payload ∧
      ∀ outcome ∈ fates d outcomes, outcome.isWritten = false → outcome.isLost = true := by
  intro p outcomes
  have hclose : Event.close ∉ events := close_not_mem_of_undisturbed hevents
  have hsuccessive : Successive p outcomes := successive_empty.run tidy_empty hclose
  have hbalance : submitted d events = settled d outcomes ++ p.backlog d :=
    tidy_empty.run_balance hclose d
  refine ⟨hsuccessive.carried d, hsuccessive.logged.nodup_dialers d, ?_, ?_, ?_, ?_⟩
  · rw [hbalance]
    exact (written_sublist_settled d outcomes).trans (List.sublist_append_left _ _)
  · rw [map_payload_fates, hbalance, backlog_eq]
  · exact (filter_isWritten_fates d outcomes).symm
  · intro outcome houtcome hwritten
    obtain ⟨hmem, hfinal⟩ := List.mem_filter.1 houtcome
    have hfinal : outcome.isFinal = true := (Bool.and_eq_true_iff.1 hfinal).1
    have hfate := tidy_empty.isWritten_or_isLost_run hevents hmem hfinal
    exact hfate.resolve_left (by simp [hwritten])

/-- Two connections end with payloads behind, and the dial in between fails; what is submitted
meanwhile, for this destination and for another one, does not come before what was handed on. -/
theorem order_survives_two_evictions :
    let other : Endpoint := .v4 .unspecified 1
    let events : List (Event Nat) :=
      [.submit .unbound 10, .submit .unbound 11, .dial 1, .dialed 1 true, .submit other 20,
        .submit .unbound 12, .write 1 true, .finish 1, .submit .unbound 13, .evict 1, .dial 3,
        .undialed 3, .submit .unbound 14, .evict 3, .dial 2, .submit .unbound 15, .dial 4,
        .dialed 2 true, .dialed 4 true, .submit .unbound 16, .write 4 true, .write 4 false,
        .evict 4, .dial 5]
    let p := (({} : Pool Nat).run events).1
    let outcomes := (({} : Pool Nat).run events).2
    ({} : Pool Nat).undisturbed events = true ∧
      dialers .unbound outcomes = [1, 3, 4, 5] ∧ writtenOver 1 outcomes = [10, 11] ∧
      writtenOver 4 outcomes = [13, 14] ∧ written .unbound outcomes = [10, 11, 13, 14] ∧
      (written .unbound outcomes).Sublist (submitted .unbound events) ∧
      submitted .unbound events = [10, 11, 12, 13, 14, 15, 16] ∧
      p.held .unbound = [16] ∧ p.queued .unbound = [] ∧
      (.undialed .unbound 3 12 : Outcome Nat).isLost = true ∧
      (.unwritten .unbound 4 15 : Outcome Nat).isLost = true := by
  intro other events p outcomes
  have hevents : ({} : Pool Nat).undisturbed events = true := by decide
  obtain ⟨hcarried, -, hsublist, -, -, hlost⟩ := order_survives_evictions events hevents .unbound
  have hdialers : dialers .unbound outcomes = [1, 3, 4, 5] := by decide
  have hfirst : writtenOver 1 outcomes = [10, 11] := by decide
  have hthird : writtenOver 4 outcomes = [13, 14] := by decide
  have hwritten : written .unbound outcomes = [10, 11, 13, 14] := by
    refine hcarried.trans ?_
    rw [hdialers, List.flatMap_cons, List.flatMap_cons, List.flatMap_cons, hfirst, hthird]
    decide
  refine ⟨hevents, hdialers, hfirst, hthird, hwritten, hsublist, by decide, by decide, by decide,
    ?_, ?_⟩
  · exact hlost _ (by decide) rfl
  · exact hlost _ (by decide) rfl

end Pool

end Framewire
