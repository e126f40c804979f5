/-
**Where the payloads of a registry go.**

A payload that is sent to an address goes to the queue of the enrolment that stands for the address
at that moment, provided that somebody still attends to this queue; otherwise it goes nowhere.  So a
queue that is attended to gets the payloads of the successful sends that fall into the time in which
its enrolment stood, and whoever empties it receives them in order.  When all of them were received
and the enrolment does not stand any more, the queue is seen as closed.

Main definitions:

* `Registry.HungUp` — nobody attends to the queue of an enrolment any more;
* `Registry.moments` — the operations of a history, each with what came before it;
* `Registry.routed`, `Registry.received` — the payloads that were sent to an enrolment while it
  stood, and the ones that were received out of its queue;
* `Registry.Routing` — what the queues of a registry hold after a history.

Main results:

* `Registry.Routing.step`, `Registry.routing_run` — every history keeps to the routing;
* `Registry.routes_to_current_queue` — **payloads are received by the enrolment that stood when they
  were sent**, in order and each once.
-/

import Framewire.Proofs.RegistryHistory

set_option autoImplicit false

namespace Framewire

/-- The payload that was found, if there was one. -/
def Receipt.payloads : Receipt → List Bytes
  | .payload bytes => [bytes]
  | .empty | .closed => []

namespace Registry

variable {history : List Operation} {operation : Operation} {remote : Endpoint} {id n : Nat}
  {r : Registry} {message : Message}

/-! ### What operations do to enrolments -/

theorem enrolment?_modify (r : Registry) (id n : Nat) (f : Enrolment → Enrolment) :
    (r.modify id f).enrolment? n =
      if id = n then (r.enrolment? n).map f else r.enrolment? n := by
  rw [enrolment?, modify, List.getElem?_modify, enrolment?]
  by_cases h : id = n
  · simp [h]
  · simp [h]

theorem enrolment?_enrol (r : Registry) (remote : Endpoint) (n : Nat) :
    (r.enrol remote).2.enrolment? n = if n = r.nextId then some { remote } else r.enrolment? n := by
  rw [enrolment?, enrol, enrolment?, nextId]
  rcases Nat.lt_trichotomy n r.enrolments.length with h | rfl | h
  · rw [if_neg (Nat.ne_of_lt h), List.getElem?_append_left h]
  · simp
  · rw [if_neg (Nat.ne_of_gt h), List.getElem?_eq_none (Nat.le_of_lt h), List.getElem?_eq_none]
    rw [List.length_append, List.length_singleton]
    omega

theorem enrolments_withdraw (r : Registry) (id : Nat) :
    (r.withdraw id).2.enrolments = r.enrolments := by
  rw [withdraw]
  split
  · split <;> rfl
  · rfl

/-- A payload goes to the current enrolment of its address if somebody attends to it, and otherwise
nothing happens. -/
theorem send_cases (r : Registry) (message : Message) :
    (∃ id e, r.current.get? message.remote = some id ∧ r.enrolment? id = some e ∧
        e.attended = true ∧
        r.send message =
          (true, r.modify id fun e => { e with queue := e.queue ++ [message.payload] })) ∨
      (r.send message = (false, r) ∧ ∀ id e, r.current.get? message.remote = some id →
        r.enrolment? id = some e → e.attended = false) := by
  rw [send]
  split
  · next id hget =>
    split
    · next h =>
      obtain ⟨e, he, hattended⟩ := Option.any_eq_true _ _ |>.1 h
      exact .inl ⟨id, e, hget, he, hattended, rfl⟩
    · next h =>
      refine .inr ⟨rfl, fun id' e hget' he => ?_⟩
      rw [hget, Option.some.injEq] at hget'
      subst hget'
      rw [he] at h
      simpa using h
  · next hget =>
    refine .inr ⟨rfl, fun id e hget' => ?_⟩
    rw [hget] at hget'
    exact absurd hget' (by simp)

/-- A payload is received from the front of a queue, and otherwise nothing happens. -/
theorem receive_cases (r : Registry) (id : Nat) :
    (∃ e payload queue, r.enrolment? id = some e ∧ e.queue = payload :: queue ∧
        r.receive id = (.payload payload, r.modify id fun e => { e with queue })) ∨
      (r.receive id).1.payloads = [] ∧ (r.receive id).2 = r := by
  rw [receive]
  split
  · next e he =>
    split
    · next payload queue hqueue => exact .inl ⟨e, payload, queue, he, hqueue, rfl⟩
    · refine .inr ⟨?_, rfl⟩
      split <;> rfl
  · exact .inr ⟨rfl, rfl⟩

/-- A queue is seen as closed when it is empty and its enrolment is not current. -/
theorem receive_eq_closed_iff {e : Enrolment} (he : r.enrolment? id = some e) :
    (r.receive id).1 = .closed ↔ e.queue = [] ∧ r.isCurrent id = false := by
  simp only [receive, he]
  cases e.queue with
  | nil => cases r.isCurrent id <;> simp
  | cons payload queue => simp

/-! ### Moments -/

/-- Somebody has hung up on the queue of an enrolment. -/
def HungUp (history : List Operation) (id : Nat) : Prop :=
  ∃ before after, history = before ++ .hangUp id :: after ∧ id < (enrolled before).length

theorem hungUp_append_singleton :
    HungUp (history ++ [operation]) id ↔
      HungUp history id ∨ operation = .hangUp id ∧ id < (enrolled history).length := by
  constructor
  · rintro ⟨before, after, heq, hid⟩
    rcases List.eq_nil_or_concat after with rfl | ⟨after, last, rfl⟩
    · obtain ⟨rfl, hlast⟩ := List.append_inj' heq rfl
      exact .inr ⟨List.singleton_inj.1 hlast, hid⟩
    · rw [List.concat_eq_append, ← List.cons_append, ← List.append_assoc] at heq
      obtain ⟨rfl, -⟩ := List.append_inj' heq rfl
      exact .inl ⟨before, after, rfl, hid⟩
  · rintro (⟨before, after, rfl, hid⟩ | ⟨rfl, hid⟩)
    · exact ⟨before, after ++ [operation], by simp, hid⟩
    · exact ⟨history, [], rfl, hid⟩

theorem hungUp_append_singleton_of_ne (h : operation ≠ .hangUp id) :
    HungUp (history ++ [operation]) id ↔ HungUp history id := by
  rw [hungUp_append_singleton]
  simp [h]

/-- Nobody hangs up before the enrolment. -/
theorem HungUp.lt (h : HungUp history id) : id < (enrolled history).length := by
  obtain ⟨before, after, rfl, hid⟩ := h
  rw [enrolled_append, List.length_append]
  omega

/-- The operations of a history that goes on from another one, each with what came before it. -/
def momentsAfter (before : List Operation) :
    List Operation → List (List Operation × Operation)
  | [] => []
  | operation :: later => (before, operation) :: momentsAfter (before ++ [operation]) later

/-- The operations of a history, each with what came before it. -/
def moments (history : List Operation) : List (List Operation × Operation) :=
  momentsAfter [] history

theorem moments_append_singleton (history : List Operation) (operation : Operation) :
    moments (history ++ [operation]) = moments history ++ [(history, operation)] := by
  have hafter : ∀ before, momentsAfter before (history ++ [operation]) =
      momentsAfter before history ++ [(before ++ history, operation)] := by
    induction history with
    | nil => simp [momentsAfter]
    | cons first later ih => simp [momentsAfter, ih]
  exact hafter []

/-- The payload that an operation sends to an enrolment, if it is a successful send to the address
for which the enrolment stands. -/
def routedAt (id : Nat) : List Operation × Operation → List Bytes
  | (before, .send message) =>
    if ((run before).send message).1 = true ∧ Stands before message.remote id then
      [message.payload]
    else []
  | _ => []

/-- The payload that an operation receives out of the queue of an enrolment. -/
def receivedAt (id : Nat) : List Operation × Operation → List Bytes
  | (before, .receive id') =>
    if id' = id then ((run before).receive id).1.payloads else []
  | _ => []

/-- The payloads that were sent to an enrolment while it stood, in order. -/
def routed (id : Nat) (history : List Operation) : List Bytes :=
  (moments history).flatMap (routedAt id)

/-- The payloads that were received out of the queue of an enrolment, in order. -/
def received (id : Nat) (history : List Operation) : List Bytes :=
  (moments history).flatMap (receivedAt id)

theorem routed_append_singleton (id : Nat) (history : List Operation) (operation : Operation) :
    routed id (history ++ [operation]) = routed id history ++ routedAt id (history, operation) := by
  rw [routed, moments_append_singleton, List.flatMap_append, List.flatMap_singleton, routed]

theorem received_append_singleton (id : Nat) (history : List Operation) (operation : Operation) :
    received id (history ++ [operation]) =
      received id history ++ receivedAt id (history, operation) := by
  rw [received, moments_append_singleton, List.flatMap_append, List.flatMap_singleton, received]

/-! ### Queues -/

/-- After a history, an enrolment is attended to unless somebody has hung up; then what was received
out of its queue and what is still in it are the payloads that were sent to it; and to numbers that
were not given out nothing was sent. -/
structure Routing (history : List Operation) : Prop where
  attended : ∀ id e, (run history).enrolment? id = some e →
    (e.attended = true ↔ ¬HungUp history id)
  queue : ∀ id e, (run history).enrolment? id = some e → ¬HungUp history id →
    received id history ++ e.queue = routed id history
  fresh : ∀ id, (enrolled history).length ≤ id → received id history = [] ∧ routed id history = []

theorem routing_nil : Routing [] where
  attended id e he := by simp [enrolment?] at he
  queue id e he := by simp [enrolment?] at he
  fresh id _ := ⟨rfl, rfl⟩

theorem lt_of_enrolment? {e : Enrolment} (he : (run history).enrolment? id = some e) :
    id < (enrolled history).length := by
  have h := (recorded_run history).remote_eq he
  exact (List.getElem?_eq_some_iff.1 h).1

/-- An operation that sends nothing to an enrolment and receives nothing out of its queue. -/
theorem routed_eq_of_nil (hrouted : routedAt id (history, operation) = [])
    (hreceived : receivedAt id (history, operation) = []) :
    routed id (history ++ [operation]) = routed id history ∧
      received id (history ++ [operation]) = received id history := by
  rw [routed_append_singleton, received_append_singleton, hrouted, hreceived, List.append_nil,
    List.append_nil]
  exact ⟨rfl, rfl⟩

namespace Routing

/-- Where the enrolments stay as they are and nothing is sent or received, nothing changes. -/
theorem keep (h : Routing history)
    (henrolments : (run (history ++ [operation])).enrolments = (run history).enrolments)
    (hhangUp : ∀ id, operation ≠ .hangUp id) (henrol : ∀ remote, operation ≠ .enrol remote)
    (hrouted : ∀ id, routedAt id (history, operation) = [])
    (hreceived : ∀ id, receivedAt id (history, operation) = []) :
    Routing (history ++ [operation]) := by
  have hsame : ∀ id,
      (run (history ++ [operation])).enrolment? id = (run history).enrolment? id := by
    intro id
    rw [enrolment?, enrolment?, henrolments]
  have henrolled : enrolled (history ++ [operation]) = enrolled history :=
    enrolled_append_singleton_of_ne henrol
  refine ⟨fun id e he => ?_, fun id e he hid => ?_, fun id hid => ?_⟩
  · rw [hungUp_append_singleton_of_ne (hhangUp id)]
    exact h.attended id e (hsame id ▸ he)
  · rw [hungUp_append_singleton_of_ne (hhangUp id)] at hid
    obtain ⟨hr, hr'⟩ := routed_eq_of_nil (hrouted id) (hreceived id)
    rw [hr, hr']
    exact h.queue id e (hsame id ▸ he) hid
  · obtain ⟨hr, hr'⟩ := routed_eq_of_nil (hrouted id) (hreceived id)
    rw [hr, hr']
    exact h.fresh id (henrolled ▸ hid)

/-- A new enrolment has nothing in its queue, and nothing was sent to it before. -/
theorem enrol (h : Routing history) (remote : Endpoint) : Routing (history ++ [.enrol remote]) := by
  have hnext : (run history).nextId = (enrolled history).length := (recorded_run history).length_eq
  refine ⟨fun id e he => ?_, fun id e he hid => ?_, fun id hid => ?_⟩
  · rw [hungUp_append_singleton_of_ne (by simp)]
    rw [run_append_singleton, step, enrolment?_enrol, hnext] at he
    split at he
    · next hid =>
      obtain rfl := Option.some.inj he
      exact iff_of_true rfl fun hhungUp => Nat.ne_of_lt hhungUp.lt hid
    · exact h.attended id e he
  · rw [hungUp_append_singleton_of_ne (by simp)] at hid
    obtain ⟨hr, hr'⟩ :=
      routed_eq_of_nil (show routedAt id (history, .enrol remote) = [] from rfl) rfl
    rw [hr, hr']
    rw [run_append_singleton, step, enrolment?_enrol, hnext] at he
    split at he
    · next hnew =>
      obtain rfl := Option.some.inj he
      rw [(h.fresh id (Nat.le_of_eq hnew.symm)).1, (h.fresh id (Nat.le_of_eq hnew.symm)).2]
      rfl
    · exact h.queue id e he hid
  · obtain ⟨hr, hr'⟩ :=
      routed_eq_of_nil (show routedAt id (history, .enrol remote) = [] from rfl) rfl
    rw [hr, hr']
    refine h.fresh id (Nat.le_trans ?_ hid)
    rw [enrolled_append, List.length_append]
    omega

/-- One queue changes, together with what was sent to it or received out of it. -/
theorem change (h : Routing history) {f : Enrolment → Enrolment}
    (hstep : (run history).step operation = (run history).modify n f)
    (hattended : ∀ e, (f e).attended = e.attended) (hhangUp : ∀ id, operation ≠ .hangUp id)
    (henrol : ∀ remote, operation ≠ .enrol remote) (hn : n < (enrolled history).length)
    (hself : ∀ e, (run history).enrolment? n = some e →
      received n history ++ e.queue = routed n history →
        received n (history ++ [operation]) ++ (f e).queue = routed n (history ++ [operation]))
    (hother : ∀ id, id ≠ n →
      routedAt id (history, operation) = [] ∧ receivedAt id (history, operation) = []) :
    Routing (history ++ [operation]) := by
  have henrolled : enrolled (history ++ [operation]) = enrolled history :=
    enrolled_append_singleton_of_ne henrol
  refine ⟨fun id e he => ?_, fun id e he hid => ?_, fun id hid => ?_⟩
  · rw [hungUp_append_singleton_of_ne (hhangUp id)]
    rw [run_append_singleton, hstep, enrolment?_modify] at he
    split at he
    · obtain ⟨e', he', rfl⟩ := Option.map_eq_some_iff.1 he
      rw [hattended]
      exact h.attended id e' he'
    · exact h.attended id e he
  · rw [hungUp_append_singleton_of_ne (hhangUp id)] at hid
    rw [run_append_singleton, hstep, enrolment?_modify] at he
    split at he
    · next heq =>
      subst heq
      obtain ⟨e', he', rfl⟩ := Option.map_eq_some_iff.1 he
      exact hself e' he' (h.queue n e' he' hid)
    · next hne =>
      obtain ⟨hr, hr'⟩ := routed_eq_of_nil (hother id (Ne.symm hne)).1 (hother id (Ne.symm hne)).2
      rw [hr, hr']
      exact h.queue id e he hid
  · rw [henrolled] at hid
    have hne : id ≠ n := by omega
    obtain ⟨hr, hr'⟩ := routed_eq_of_nil (hother id hne).1 (hother id hne).2
    rw [hr, hr']
    exact h.fresh id hid

theorem send (h : Routing history) (message : Message) : Routing (history ++ [.send message]) := by
  have hcurrent := (recorded_run history).current message.remote
  rcases (run history).send_cases message with ⟨id, e, hget, he, -, hsend⟩ | ⟨hsend, -⟩
  · -- the enrolment that stands for the address is the only one that the payload is sent to
    have hrouted : ∀ other, routedAt other (history, .send message) =
        if id = other then [message.payload] else [] := by
      intro other
      simp only [routedAt, hsend, true_and, ← hcurrent, hget, Option.some.injEq]
    refine h.change (n := id) (f := fun e => { e with queue := e.queue ++ [message.payload] }) ?_
      (fun _ => rfl) (by simp) (by simp) (lt_of_enrolment? he) (fun e _ hqueue => ?_)
      fun other hne => ?_
    · rw [step, hsend]
    · rw [received_append_singleton, routed_append_singleton, hrouted, if_pos rfl, ← hqueue,
        List.append_assoc]
      simp [receivedAt]
    · rw [hrouted, if_neg (Ne.symm hne)]
      exact ⟨rfl, rfl⟩
  · refine h.keep ?_ (by simp) (by simp) (fun id => ?_) fun id => rfl
    · rw [run_append_singleton, step, hsend]
    · simp [routedAt, hsend]

theorem receive (h : Routing history) (id : Nat) : Routing (history ++ [.receive id]) := by
  rcases (run history).receive_cases id with
    ⟨e, payload, queue, he, hqueue, hreceive⟩ | ⟨hnone, hsame⟩
  · refine h.change (n := id) (f := fun e => { e with queue }) ?_ (fun _ => rfl) (by simp) (by simp)
      (lt_of_enrolment? he) (fun e' he' hrouted => ?_) fun other hne => ?_
    · rw [step, hreceive]
    · rw [he, Option.some.injEq] at he'
      subst he'
      rw [received_append_singleton, routed_append_singleton, ← hrouted, hqueue]
      simp [receivedAt, routedAt, hreceive, Receipt.payloads]
    · simp [routedAt, receivedAt, Ne.symm hne]
  · refine h.keep ?_ (by simp) (by simp) (fun id => rfl) fun other => ?_
    · rw [run_append_singleton, step, hsame]
    · rw [receivedAt]
      split
      · next heq => rw [← heq, hnone]
      · rfl

/-- After hanging up, nothing more is claimed about the queue. -/
theorem hangUp (h : Routing history) (n : Nat) : Routing (history ++ [.hangUp n]) := by
  refine ⟨fun id e he => ?_, fun id e he hid => ?_, fun id hid => ?_⟩
  · rw [run_append_singleton, step, Registry.hangUp, enrolment?_modify] at he
    rw [hungUp_append_singleton]
    split at he
    · next heq =>
      subst heq
      obtain ⟨e', he', rfl⟩ := Option.map_eq_some_iff.1 he
      simp [lt_of_enrolment? he']
    · next hne =>
      rw [h.attended id e he]
      simp [hne]
  · rw [run_append_singleton, step, Registry.hangUp, enrolment?_modify] at he
    rw [hungUp_append_singleton, not_or] at hid
    split at he
    · next heq =>
      subst heq
      obtain ⟨e', he', -⟩ := Option.map_eq_some_iff.1 he
      exact absurd ⟨rfl, lt_of_enrolment? he'⟩ hid.2
    · obtain ⟨hr, hr'⟩ :=
        routed_eq_of_nil (show routedAt id (history, .hangUp n) = [] from rfl) rfl
      rw [hr, hr']
      exact h.queue id e he hid.1
  · obtain ⟨hr, hr'⟩ :=
      routed_eq_of_nil (show routedAt id (history, .hangUp n) = [] from rfl) rfl
    rw [hr, hr']
    refine h.fresh id (Nat.le_trans ?_ hid)
    rw [enrolled_append, List.length_append]
    omega

theorem step (h : Routing history) (operation : Operation) : Routing (history ++ [operation]) := by
  cases operation with
  | enrol remote => exact h.enrol remote
  | withdraw id =>
      refine h.keep ?_ (by simp) (by simp) (fun _ => rfl) fun _ => rfl
      rw [run_append_singleton]
      exact enrolments_withdraw _ id
  | send message => exact h.send message
  | receive id => exact h.receive id
  | clear =>
      refine h.keep ?_ (by simp) (by simp) (fun _ => rfl) fun _ => rfl
      rw [run_append_singleton]
      rfl
  | hangUp id => exact h.hangUp id

end Routing

/-- **Every history keeps to the routing.** -/
theorem routing_run (history : List Operation) : Routing history := by
  induction history using List.reverseRecOn with
  | nil => exact routing_nil
  | append_singleton history operation ih => exact ih.step operation

/-! ### Main result -/

/-- **Payloads are received by the enrolment that stood when they were sent.**  A send succeeds
exactly if an enrolment stands for the address and nobody has hung up on it, and otherwise it
changes nothing.  For every enrolment on which nobody has hung up, the payloads that were received
out of its queue, and then those that are still in it, are the ones of the successful sends to its
address while it stood, in order and each once; and the queue is seen as closed exactly if all of
these were received and the enrolment stands no more. -/
theorem routes_to_current_queue (history : List Operation) :
    let r := run history
    (∀ message, (r.send message).1 = true ↔
        ∃ id, Stands history message.remote id ∧ ¬HungUp history id) ∧
      (∀ message, (r.send message).1 = false → (r.send message).2 = r) ∧
      ∀ id remote, (enrolled history)[id]? = some remote → ¬HungUp history id →
        ∃ queue, r.enrolment? id = some { remote, queue, attended := true } ∧
          received id history ++ queue = routed id history ∧
          ((r.receive id).1 = .closed ↔
            received id history = routed id history ∧ ¬Stands history remote id) := by
  intro r
  have hrecorded : Recorded history r := recorded_run history
  have hrouting : Routing history := routing_run history
  refine ⟨fun message => ?_, fun message hfalse => ?_, fun id remote hid hattended => ?_⟩
  · rcases r.send_cases message with ⟨id, e, hget, he, hattended, hsend⟩ | ⟨hsend, hnone⟩
    · rw [hsend]
      exact iff_of_true rfl
        ⟨id, (hrecorded.current _ _).1 hget, (hrouting.attended id e he).1 hattended⟩
    · rw [hsend]
      refine iff_of_false Bool.false_ne_true ?_
      rintro ⟨id, hstands, hhungUp⟩
      obtain ⟨e, he, -⟩ := hrecorded.exists_enrolment hstands.enrolled_eq
      have := hnone id e ((hrecorded.current _ _).2 hstands) he
      rw [(hrouting.attended id e he).2 hhungUp] at this
      exact absurd this (by simp)
  · rcases r.send_cases message with ⟨id, e, -, -, -, hsend⟩ | ⟨hsend, -⟩
    · rw [hsend] at hfalse
      exact absurd hfalse (by simp)
    · rw [hsend]
  · obtain ⟨e, he, rfl⟩ := hrecorded.exists_enrolment hid
    have hqueue := hrouting.queue id e he hattended
    have hcurrent : r.isCurrent id = true ↔ Stands history e.remote id := by
      refine isCurrent_iff.trans ⟨?_, fun hstands => ⟨e.remote, hstands⟩⟩
      rintro ⟨other, hstands⟩
      have heq := hstands.enrolled_eq
      rw [hid, Option.some.injEq] at heq
      rwa [heq]
    refine ⟨e.queue, ?_, hqueue, ?_⟩
    · rw [he, ← (hrouting.attended id e he).2 hattended]
    · rw [receive_eq_closed_iff he, ← hcurrent, ← hqueue, Bool.not_eq_true]
      simp

/-- A payload is sent to the first enrolment of an address and one to the second, which replaces it;
a third one finds that somebody has hung up.  The first queue is closed once its payload was
received. -/
theorem routes_to_current_queue_replaced :
    let history : List Operation :=
      [.enrol .unbound, .send ⟨[1], .unbound⟩, .enrol .unbound, .send ⟨[2], .unbound⟩,
        .receive 0, .send ⟨[3], .unbound⟩, .receive 1]
    let r := run history
    routed 0 history = [[1]] ∧ received 0 history = [[1]] ∧ (r.receive 0).1 = .closed ∧
      routed 1 history = [[2], [3]] ∧ received 1 history = [[2]] ∧
      r.enrolment? 1 = some { remote := .unbound, queue := [[3]], attended := true } ∧
      (r.receive 1).1 ≠ .closed ∧ (r.send ⟨[4], .unbound⟩).1 = true ∧
      ((run (history ++ [.hangUp 1])).send ⟨[4], .unbound⟩).1 = false := by
  intro history r
  have hnot : ∀ id, ¬HungUp history id := by
    rintro id ⟨before, after, heq, -⟩
    have hmem : Operation.hangUp id ∈ history := by rw [heq]; simp
    simp [history] at hmem
  have hrouted : routed 0 history = [[1]] := by decide
  have hreceived : received 0 history = [[1]] := by decide
  have hrouted' : routed 1 history = [[2], [3]] := by decide
  have hreceived' : received 1 history = [[2]] := by decide
  have hcurrent : Stands history .unbound 1 := by decide
  obtain ⟨hsend, -, hqueues⟩ := routes_to_current_queue history
  obtain ⟨-, -, -, hclosed⟩ := hqueues 0 .unbound rfl (hnot 0)
  obtain ⟨queue, henrolment, hqueue, hclosed'⟩ := hqueues 1 .unbound rfl (hnot 1)
  rw [hrouted', hreceived'] at hqueue
  obtain rfl : queue = [[3]] := by simpa using hqueue
  have hlast := (routes_to_current_queue (history ++ [.hangUp 1])).1 ⟨[4], .unbound⟩
  refine ⟨hrouted, hreceived, hclosed.2 ⟨by rw [hrouted, hreceived], by decide⟩, hrouted',
    hreceived', henrolment, fun h => ?_, (hsend _).2 ⟨1, hcurrent, hnot 1⟩, ?_⟩
  · exact (hclosed'.1 h).2 hcurrent
  · refine Bool.eq_false_iff.2 fun h => ?_
    obtain ⟨id, hstands, hhungUp⟩ := hlast.1 h
    have hid : id = 1 := by
      have hget := ((recorded_run _).current _ _).2 hstands
      exact (Option.some.inj (hget.symm.trans (by decide)))
    exact hhungUp ⟨history, [], by rw [hid], by rw [hid]; decide⟩

end Registry

end Framewire
