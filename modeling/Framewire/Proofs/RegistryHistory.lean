/-
**The registry as a function of its history.**

Which enrolment of an address is the current one depends only on what was done to the registry: it
is the latest enrolment of the address, provided that it was not withdrawn since then and the
registry was not cleared since then.  Such an enrolment *stands*.  Older enrolments of the address
play no part, and withdrawing one of them changes nothing.

Main definitions:

* `Registry.Operation`, `Registry.step`, `Registry.run` — what is done to a registry, and what it
  comes to;
* `Registry.enrolled` — the addresses of the enrolments in a history, in the order of their numbers;
* `Registry.Stands` — **an enrolment stands** after a history;
* `Registry.Recorded` — a registry is the one that its history calls for.

Main results:

* `Registry.stands_append_singleton` — what one more operation means for what stands;
* `Registry.Recorded.step`, `Registry.recorded_run` — every history is recorded;
* `Registry.latest_enrolment_wins` — **the registry holds what stands**, and nothing else.
-/

import Framewire.Registry
import Mathlib.Data.Finset.Card
import Mathlib.Data.List.Induction

set_option autoImplicit false

namespace Framewire

/-! ### Addresses in a directory -/

theorem Directory.mem_map_fst_entries {α : Type} {d : Directory α} {e : Endpoint} :
    e ∈ d.entries.map Prod.fst ↔ ∃ a, d.get? e = some a := by
  rw [← Option.isSome_iff_exists, get?, Option.isSome_map, List.find?_isSome, List.mem_map]
  simp only [decide_eq_true_eq]

/-- As many endpoints have a value as the size says. -/
theorem Directory.card_toFinset_entries {α : Type} (d : Directory α) :
    (d.entries.map Prod.fst).toFinset.card = d.size := by
  rw [List.toFinset_card_of_nodup d.nodup, List.length_map, size]

namespace Registry

/-! ### Histories -/

/-- What is done to a registry. -/
inductive Operation where
  | enrol (remote : Endpoint)
  | withdraw (id : Nat)
  | send (message : Message)
  | receive (id : Nat)
  | clear
  | hangUp (id : Nat)
deriving DecidableEq, Repr

/-- The registry after an operation. -/
def step (r : Registry) : Operation → Registry
  | .enrol remote => (r.enrol remote).2
  | .withdraw id => (r.withdraw id).2
  | .send message => (r.send message).2
  | .receive id => (r.receive id).2
  | .clear => r.clear
  | .hangUp id => r.hangUp id

/-- The registry after a history, beginning with none enrolled. -/
def run (history : List Operation) : Registry := history.foldl step {}

@[simp] theorem run_nil : run [] = {} := rfl

theorem run_append_singleton (history : List Operation) (operation : Operation) :
    run (history ++ [operation]) = (run history).step operation :=
  List.foldl_append

/-- The address of an enrolment. -/
def Operation.enrolled? : Operation → Option Endpoint
  | .enrol remote => some remote
  | _ => none

/-- The addresses that were enrolled, in order; the place of an enrolment is its number. -/
def enrolled (history : List Operation) : List Endpoint := history.filterMap Operation.enrolled?

theorem enrolled_append (first later : List Operation) :
    enrolled (first ++ later) = enrolled first ++ enrolled later :=
  List.filterMap_append

/-- An enrolment stands after a history: it is the latest one of its address, and since then it was
not withdrawn, and the registry was not cleared. -/
def Stands (history : List Operation) (remote : Endpoint) (id : Nat) : Prop :=
  ∃ before after, history = before ++ .enrol remote :: after ∧ id = (enrolled before).length ∧
    .enrol remote ∉ after ∧ .withdraw id ∉ after ∧ .clear ∉ after

variable {history : List Operation} {operation : Operation} {remote : Endpoint} {id : Nat}

/-- Only an enrolment is added to those that were enrolled. -/
theorem enrolled_append_singleton_of_ne (henrol : ∀ remote, operation ≠ .enrol remote) :
    enrolled (history ++ [operation]) = enrolled history := by
  rw [enrolled_append]
  cases operation with
  | enrol remote => exact absurd rfl (henrol remote)
  | _ => exact List.append_nil _

theorem not_stands_nil (remote : Endpoint) (id : Nat) : ¬Stands [] remote id := by
  rintro ⟨before, after, h, -⟩
  simp at h

/-- One more operation is the latest enrolment of the address itself, or what stands stood before
and the operation does not end it. -/
theorem stands_append_singleton :
    Stands (history ++ [operation]) remote id ↔
      operation = .enrol remote ∧ id = (enrolled history).length ∨
        Stands history remote id ∧ operation ≠ .enrol remote ∧ operation ≠ .withdraw id ∧
          operation ≠ .clear := by
  constructor
  · rintro ⟨before, after, heq, hid, henrol, hwithdraw, hclear⟩
    rcases List.eq_nil_or_concat after with rfl | ⟨after, last, rfl⟩
    · obtain ⟨rfl, hlast⟩ := List.append_inj' heq rfl
      exact .inl ⟨List.singleton_inj.1 hlast, hid⟩
    · -- the enrolment was there before, and the last operation is the new one
      simp only [List.concat_eq_append, List.mem_append, List.mem_singleton, not_or]
        at heq henrol hwithdraw hclear
      rw [← List.cons_append, ← List.append_assoc] at heq
      obtain ⟨rfl, hlast⟩ := List.append_inj' heq rfl
      obtain rfl := List.singleton_inj.1 hlast
      refine .inr ⟨⟨before, after, rfl, hid, henrol.1, hwithdraw.1, hclear.1⟩, ?_, ?_, ?_⟩
      · exact Ne.symm henrol.2
      · exact Ne.symm hwithdraw.2
      · exact Ne.symm hclear.2
  · rintro (⟨rfl, rfl⟩ | ⟨⟨before, after, rfl, hid, henrol, hwithdraw, hclear⟩, hne, hne', hne''⟩)
    · exact ⟨history, [], rfl, rfl, by simp, by simp, by simp⟩
    · refine ⟨before, after ++ [operation], by simp, hid, ?_, ?_, ?_⟩
      · simp [henrol, hne.symm]
      · simp [hwithdraw, hne'.symm]
      · simp [hclear, hne''.symm]

/-- What stands is an enrolment of its address. -/
theorem Stands.enrolled_eq (h : Stands history remote id) :
    (enrolled history)[id]? = some remote := by
  obtain ⟨before, after, rfl, rfl, -⟩ := h
  rw [enrolled_append, List.getElem?_append_right (Nat.le_refl _), Nat.sub_self]
  rfl

/-- An enrolment stands for one address only. -/
theorem Stands.remote_unique (h : Stands history remote id) {other : Endpoint}
    (h' : Stands history other id) : remote = other := by
  have heq := h.enrolled_eq
  rw [h'.enrolled_eq, Option.some.injEq] at heq
  exact heq.symm

/-! ### The registry of a history -/

/-- A registry is the one that its history calls for: it has the enrolments of the history, and the
current ones are those that stand. -/
structure Recorded (history : List Operation) (r : Registry) : Prop where
  remotes : r.enrolments.map Enrolment.remote = enrolled history
  current : ∀ remote id, r.current.get? remote = some id ↔ Stands history remote id

theorem recorded_nil : Recorded [] {} where
  remotes := rfl
  current remote id := by simp [not_stands_nil]

theorem map_remote_modify (r : Registry) (id : Nat) {f : Enrolment → Enrolment}
    (hf : ∀ e, (f e).remote = e.remote) :
    (r.modify id f).enrolments.map Enrolment.remote = r.enrolments.map Enrolment.remote := by
  refine List.ext_getElem? fun n => ?_
  rw [modify, List.getElem?_map, List.getElem?_map, List.getElem?_modify]
  cases r.enrolments[n]? with
  | none => rfl
  | some e =>
      by_cases h : id = n
      · simp [h, hf]
      · simp [h]

namespace Recorded

variable {r : Registry}

theorem length_eq (h : Recorded history r) : r.nextId = (enrolled history).length := by
  rw [← h.remotes, List.length_map, nextId]

/-- The enrolment of a number has the address that was enrolled under it. -/
theorem remote_eq (h : Recorded history r) {e : Enrolment} (he : r.enrolment? id = some e) :
    (enrolled history)[id]? = some e.remote := by
  rw [← h.remotes, List.getElem?_map, ← enrolment?, he, Option.map_some]

theorem exists_enrolment (h : Recorded history r) (hid : (enrolled history)[id]? = some remote) :
    ∃ e, r.enrolment? id = some e ∧ e.remote = remote := by
  rw [← h.remotes, List.getElem?_map, ← enrolment?, Option.map_eq_some_iff] at hid
  exact hid

/-- An operation that leaves addresses and current enrolments alone is recorded if it ends nothing
that stands. -/
theorem keep (h : Recorded history r) {r' : Registry}
    (hremotes : r'.enrolments.map Enrolment.remote = r.enrolments.map Enrolment.remote)
    (hcurrent : r'.current = r.current) (henrol : ∀ remote, operation ≠ .enrol remote)
    (hwithdraw : ∀ id, operation ≠ .withdraw id) (hclear : operation ≠ .clear) :
    Recorded (history ++ [operation]) r' where
  remotes := by
    rw [hremotes, h.remotes, enrolled_append_singleton_of_ne henrol]
  current remote id := by
    rw [hcurrent, h.current, stands_append_singleton]
    simp [henrol remote, hwithdraw id, hclear]

theorem enrol (h : Recorded history r) (remote : Endpoint) :
    Recorded (history ++ [.enrol remote]) (r.enrol remote).2 where
  remotes := by
    rw [enrolled_append, ← h.remotes]
    exact List.map_append
  current other id := by
    simp only [Registry.enrol, Directory.get?_insert, h.length_eq, stands_append_singleton]
    by_cases hother : remote = other
    · simp [hother, eq_comm]
    · simp [hother, Ne.symm hother, h.current]

/-- Withdrawing ends what stands under the number, and nothing else. -/
theorem withdraw (h : Recorded history r) (id : Nat) :
    Recorded (history ++ [.withdraw id]) (r.withdraw id).2 := by
  have henrolled : enrolled (history ++ [.withdraw id]) = enrolled history :=
    enrolled_append_singleton_of_ne (by simp)
  have hstands : ∀ remote other, Stands (history ++ [.withdraw id]) remote other ↔
      Stands history remote other ∧ id ≠ other := by
    intro remote other
    rw [stands_append_singleton]
    simp
  -- where nothing stands under the number, nothing changes
  have hnone : (∀ remote, ¬Stands history remote id) → Recorded (history ++ [.withdraw id]) r := by
    intro hnot
    refine ⟨h.remotes.trans henrolled.symm, fun remote other => ?_⟩
    rw [h.current, hstands, iff_self_and]
    rintro hother rfl
    exact hnot remote hother
  rw [Registry.withdraw]
  split
  · next e he =>
    split
    · next hget =>
      have hid := (h.current _ _).1 hget
      refine ⟨h.remotes.trans henrolled.symm, fun remote other => ?_⟩
      rw [Directory.get?_erase, hstands]
      by_cases hremote : remote = e.remote
      · subst hremote
        rw [if_pos rfl, ← h.current, hget]
        simp
      · rw [if_neg hremote, h.current, iff_self_and]
        rintro hother rfl
        exact hremote (hother.remote_unique hid)
    · next hget =>
      refine hnone fun remote hstand => hget ?_
      have heq := hstand.enrolled_eq
      rw [h.remote_eq he, Option.some.injEq] at heq
      rw [heq]
      exact (h.current _ _).2 hstand
  · next he =>
    refine hnone fun remote hstand => ?_
    obtain ⟨e, he', -⟩ := h.exists_enrolment hstand.enrolled_eq
    rw [he] at he'
    exact absurd he' (by simp)

theorem clear (h : Recorded history r) : Recorded (history ++ [.clear]) r.clear where
  remotes := by
    rw [enrolled_append_singleton_of_ne (by simp)]
    exact h.remotes
  current remote id := by
    rw [stands_append_singleton]
    simp [Registry.clear]

end Recorded

/-- Sending leaves the addresses and the current enrolments alone. -/
theorem current_send (r : Registry) (message : Message) :
    (r.send message).2.current = r.current := by
  rw [send]
  split
  · split <;> rfl
  · rfl

theorem map_remote_send (r : Registry) (message : Message) :
    (r.send message).2.enrolments.map Enrolment.remote = r.enrolments.map Enrolment.remote := by
  rw [send]
  split
  · split
    · exact map_remote_modify r _ fun _ => rfl
    · rfl
  · rfl

theorem current_receive (r : Registry) (id : Nat) : (r.receive id).2.current = r.current := by
  rw [receive]
  split
  · split <;> rfl
  · rfl

theorem map_remote_receive (r : Registry) (id : Nat) :
    (r.receive id).2.enrolments.map Enrolment.remote = r.enrolments.map Enrolment.remote := by
  rw [receive]
  split
  · split
    · exact map_remote_modify r id fun _ => rfl
    · rfl
  · rfl

theorem Recorded.step {r : Registry} (h : Recorded history r) (operation : Operation) :
    Recorded (history ++ [operation]) (r.step operation) := by
  cases operation with
  | enrol remote => exact h.enrol remote
  | withdraw id => exact h.withdraw id
  | send message =>
      exact h.keep (map_remote_send r message) (current_send r message) (by simp) (by simp)
        (by simp)
  | receive id =>
      exact h.keep (map_remote_receive r id) (current_receive r id) (by simp) (by simp) (by simp)
  | clear => exact h.clear
  | hangUp id =>
      exact h.keep (map_remote_modify r id fun _ => rfl) rfl (by simp) (by simp) (by simp)

/-- **Every history is recorded.** -/
theorem recorded_run (history : List Operation) : Recorded history (run history) := by
  induction history using List.reverseRecOn with
  | nil => exact recorded_nil
  | append_singleton history operation ih =>
      rw [run_append_singleton]
      exact ih.step operation

/-- What stands can be looked up. -/
instance (history : List Operation) (remote : Endpoint) (id : Nat) :
    Decidable (Stands history remote id) :=
  decidable_of_iff _ ((recorded_run history).current remote id)

theorem isCurrent_iff : (run history).isCurrent id = true ↔ ∃ remote, Stands history remote id := by
  have h := recorded_run history
  simp only [isCurrent, Option.any_eq_true, decide_eq_true_eq, h.current]
  constructor
  · rintro ⟨e, -, hstand⟩
    exact ⟨e.remote, hstand⟩
  · rintro ⟨remote, hstand⟩
    obtain ⟨e, he, rfl⟩ := h.exists_enrolment hstand.enrolled_eq
    exact ⟨e, he, hstand⟩

/-- Withdrawing an enrolment that does not stand changes nothing, and nothing is noted. -/
theorem withdraw_of_not_stands (hid : ∀ remote, ¬Stands history remote id) :
    (run history).withdraw id = ([], run history) := by
  rw [withdraw]
  split
  · next e _ =>
    rw [if_neg]
    exact fun hget => hid e.remote (((recorded_run history).current _ _).1 hget)
  · rfl

/-! ### Main result -/

/-- **The latest enrolment wins** as long as it stands, whatever was done to the registry.  Numbers
are given out in order, from zero on; an address has a current enrolment exactly if one stands for
it, and then that one; the size is the number of such addresses; sending takes no part in this; and
withdrawing an enrolment that does not stand changes nothing and is not noted. -/
theorem latest_enrolment_wins (history : List Operation) :
    let r := run history
    (∀ remote, (r.enrol remote).1 = [.registered (enrolled history).length remote]) ∧
      (∀ remote id, r.current.get? remote = some id ↔ Stands history remote id) ∧
      (∀ remote, r.contains remote = true ↔ ∃ id, Stands history remote id) ∧
      (∃ addresses : Finset Endpoint,
        (∀ remote, remote ∈ addresses ↔ ∃ id, Stands history remote id) ∧
          r.size = addresses.card) ∧
      (r.isEmpty = true ↔ r.size = 0) ∧
      (∀ message, (r.send message).2.current = r.current) ∧
      ∀ id, (∀ remote, ¬Stands history remote id) → r.withdraw id = ([], r) := by
  intro r
  have h : Recorded history r := recorded_run history
  refine ⟨fun remote => ?_, h.current, fun remote => ?_, ?_, r.isEmpty_iff, r.current_send,
    fun id => withdraw_of_not_stands⟩
  · rw [enrol, h.length_eq]
  · rw [contains, Directory.contains_iff]
    exact exists_congr (h.current remote)
  · refine ⟨(r.current.entries.map Prod.fst).toFinset, fun remote => ?_, ?_⟩
    · rw [List.mem_toFinset, Directory.mem_map_fst_entries]
      exact exists_congr (h.current remote)
    · rw [Directory.card_toFinset_entries]
      rfl

/-- An address is enrolled twice and another one once, and the registry is cleared in between: the
first enrolment was replaced and the second one was cleared, so withdrawing them, late and in the
other order, leaves the third one, which stands. -/
theorem latest_enrolment_wins_after_clear :
    let other : Endpoint := .v4 .unspecified 1
    let history : List Operation :=
      [.enrol .unbound, .enrol .unbound, .hangUp 1, .clear, .enrol other, .withdraw 1,
        .send ⟨[7], .unbound⟩, .withdraw 0]
    let r := run history
    Stands history other 2 ∧ r.current.get? other = some 2 ∧ r.contains .unbound = false ∧
      r.size = 1 ∧ (r.enrol .unbound).1 = [.registered 3 .unbound] ∧
      r.withdraw 0 = ([], r) ∧ r.withdraw 1 = ([], r) ∧
      (r.withdraw 2).1 = [.deregistered 2 other] := by
  intro other history r
  obtain ⟨hids, hcurrent, hcontains, -, -, -, hwithdraw⟩ := latest_enrolment_wins history
  have hother : r.current.get? other = some 2 := by decide
  have hstands : Stands history other 2 := (hcurrent other 2).1 hother
  have hunbound : r.contains .unbound = false := by decide
  have hnone : ∀ id, id ≠ 2 → ∀ remote, ¬Stands history remote id := by
    intro id hid remote hstand
    have hget := (hcurrent remote id).2 hstand
    by_cases hremote : remote = other
    · rw [hremote, hother, Option.some.injEq] at hget
      exact hid hget.symm
    · have hnot : r.current.get? remote = none := by
        refine (Directory.get?_insert _ other remote 2).trans ?_
        rw [if_neg hremote]
        rfl
      rw [hnot] at hget
      exact absurd hget (by simp)
  exact ⟨hstands, hother, hunbound, by decide, hids .unbound,
    hwithdraw 0 (hnone 0 (by decide)), hwithdraw 1 (hnone 1 (by decide)), by decide⟩

end Registry

end Framewire
