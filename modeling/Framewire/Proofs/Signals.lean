/-
**Shutdown signals are not missed, not forged, and they stay.**

A listener that has fallen behind finds signals overwritten, another one finds several of them, and
a third one finds that the sender is gone.  All this comes to one flag, which each listener has for
itself: it waits, it has been called, or it has noted so.  The flag follows what the sender has done
since the listener subscribed, and the listener's own looks; other listeners and the capacity of the
channel do not come into it.

Main definitions:

* `Shutdown.Operation`, `Shutdown.run`, `Shutdown.answers` — what is done with a sender and its
  listeners, what it comes to, and what is answered;
* `Shutdown.Completed` — some look of a listener was answered by a signal in a history;
* `Shutdown.concern?` — what of a history concerns a listener;
* `Shutdown.View`, `Shutdown.view` — the flag of a listener, beside whether the sender is gone.

Main results:

* `Shutdown.exists_view_step`, `Shutdown.exists_view_run` — **the flag follows what concerns the
  listener**, step by step and in every history;
* `Shutdown.View.answer_run` — a flag is up exactly if the sender has sent something or is gone;
* `Shutdown.signals_reach_listeners` — **signals are not missed, not forged, and they stay**,
  whatever the capacity.
-/

import Framewire.Shutdown
import Mathlib.Data.List.Induction

set_option autoImplicit false

namespace Framewire

namespace Shutdown

/-! ### Histories -/

/-- What is done with a sender and its listeners. -/
inductive Operation where
  | subscribe
  | send
  | poll (listener : Nat)
  | dropSender
deriving DecidableEq, Repr

/-- What is answered to an operation. -/
inductive Answer where
  | nothing
  | reached (listeners : Option Nat)
  | looked (signalled : Bool)
deriving DecidableEq, Repr

/-- The sender and the listeners after an operation. -/
def step (s : Shutdown) : Operation → Shutdown
  | .subscribe => s.subscribe
  | .send => s.send.2
  | .poll listener => (s.poll listener).2
  | .dropSender => s.dropSender

/-- What is answered to an operation. -/
def answer (s : Shutdown) : Operation → Answer
  | .send => .reached s.send.1
  | .poll listener => .looked (s.poll listener).1
  | _ => .nothing

/-- What is answered to operations, one after the other. -/
def answers (s : Shutdown) : List Operation → List Answer
  | [] => []
  | operation :: rest => s.answer operation :: (s.step operation).answers rest

/-- The sender and the listeners after a history, beginning with a new channel. -/
def run (capacity : Nat) (history : List Operation) : Shutdown :=
  history.foldl step { capacity }

theorem run_append (capacity : Nat) (history more : List Operation) :
    run capacity (history ++ more) = more.foldl step (run capacity history) :=
  List.foldl_append

theorem run_append_singleton (capacity : Nat) (history : List Operation) (operation : Operation) :
    run capacity (history ++ [operation]) = (run capacity history).step operation :=
  List.foldl_append

/-- Some look of a listener has found it signalled. -/
def Completed (capacity : Nat) (history : List Operation) (listener : Nat) : Prop :=
  ∃ earlier later, history = earlier ++ .poll listener :: later ∧
    ((run capacity earlier).poll listener).1 = true

variable {s : Shutdown} {x : Listener} {l capacity : Nat} {operation : Operation}
  {history before behind : List Operation}

theorem not_completed_nil : ¬Completed capacity [] l := by
  rintro ⟨earlier, later, h, -⟩
  simp at h

theorem completed_append_singleton :
    Completed capacity (history ++ [operation]) l ↔ Completed capacity history l ∨
      operation = .poll l ∧ ((run capacity history).poll l).1 = true := by
  constructor
  · rintro ⟨earlier, later, heq, hlook⟩
    rcases List.eq_nil_or_concat later with rfl | ⟨later, last, rfl⟩
    · obtain ⟨rfl, hlast⟩ := List.append_inj' heq rfl
      exact .inr ⟨List.singleton_inj.1 hlast, hlook⟩
    · -- the look was there before, and the last operation is the new one
      rw [List.concat_eq_append, ← List.cons_append, ← List.append_assoc] at heq
      obtain ⟨rfl, -⟩ := List.append_inj' heq rfl
      exact .inl ⟨earlier, later, rfl, hlook⟩
  · rintro (⟨earlier, later, rfl, hlook⟩ | ⟨rfl, hlook⟩)
    · exact ⟨earlier, later ++ [operation], by simp, hlook⟩
    · exact ⟨history, [], rfl, hlook⟩

/-- What has been noted is not forgotten. -/
theorem Completed.append (h : Completed capacity history l) (more : List Operation) :
    Completed capacity (history ++ more) l := by
  obtain ⟨earlier, later, rfl, hlook⟩ := h
  exact ⟨earlier, later ++ more, by simp, hlook⟩

/-! ### One look -/

/-- **A signal, a lag and the end of the channel are all the same to a listener.** -/
theorem signalled_look (s : Shutdown) (x : Listener) :
    (s.look x).signalled = (x.signalled || decide (x.next < s.sent) || s.senderGone) := by
  cases hsignalled : x.signalled with
  | true => simp [look, hsignalled]
  | false =>
      by_cases hnext : x.next < s.sent
      · by_cases hlag : s.capacity < s.sent - x.next <;>
          simp [look, reading, hsignalled, hnext, hlag]
      · cases hgone : s.senderGone <;> simp [look, reading, hsignalled, hnext, hgone]

/-- A look that finds nothing changes nothing. -/
theorem look_eq_self (h : (s.look x).signalled = false) : s.look x = x := by
  rw [signalled_look, Bool.or_eq_false_iff, Bool.or_eq_false_iff, decide_eq_false_iff_not] at h
  obtain ⟨⟨hsignalled, hnext⟩, hgone⟩ := h
  simp [look, reading, hsignalled, hnext, hgone]

/-- No listener gets ahead of the sender by a look. -/
theorem next_look_le (h : x.next ≤ s.sent) : (s.look x).next ≤ s.sent := by
  cases hsignalled : x.signalled with
  | true => simpa [look, hsignalled] using h
  | false =>
      by_cases hnext : x.next < s.sent
      · by_cases hlag : s.capacity < s.sent - x.next
        · simp [look, reading, hsignalled, hnext, hlag]
        · have hlook : s.look x = ⟨x.next + 1, true⟩ := by
            simp [look, reading, hsignalled, hnext, hlag]
          rw [hlook]
          exact hnext
      · cases hgone : s.senderGone <;> simpa [look, reading, hsignalled, hnext, hgone] using h

theorem poll_of_getElem? (hx : s.listeners[l]? = some x) :
    s.poll l =
      ((s.look x).signalled, { s with listeners := s.listeners.set l (s.look x) }) := by
  rw [poll, hx]

theorem poll_of_getElem?_eq_none (hx : s.listeners[l]? = none) : s.poll l = (false, s) := by
  rw [poll, hx]

/-- A look changes the listener that looks, and no other one. -/
theorem getElem?_listeners_poll (s : Shutdown) (listener l : Nat) :
    (s.poll listener).2.listeners[l]? =
      if listener = l then s.listeners[l]?.map s.look else s.listeners[l]? := by
  cases hx : s.listeners[listener]? with
  | none =>
      rw [poll_of_getElem?_eq_none hx]
      split
      · next heq => rw [← heq, hx, Option.map_none]
      · rfl
  | some x =>
      rw [poll_of_getElem? hx]
      split
      · next heq =>
        rw [← heq, hx, Option.map_some]
        exact List.getElem?_set_self (List.getElem?_eq_some_iff.1 hx).1
      · next hne => exact List.getElem?_set_ne hne

/-- A look leaves the sender and the number of listeners alone. -/
theorem poll_unchanged (s : Shutdown) (listener : Nat) :
    (s.poll listener).2.sent = s.sent ∧ (s.poll listener).2.senderGone = s.senderGone ∧
      (s.poll listener).2.listeners.length = s.listeners.length := by
  cases hx : s.listeners[listener]? with
  | none =>
      rw [poll_of_getElem?_eq_none hx]
      exact ⟨rfl, rfl, rfl⟩
  | some x =>
      rw [poll_of_getElem? hx]
      exact ⟨rfl, rfl, List.length_set⟩

theorem isShutdown_of_getElem? (hx : s.listeners[l]? = some x) : s.isShutdown l = x.signalled := by
  rw [isShutdown, hx, Option.any_some]

/-- **A look that finds nothing leaves everything as it is.** -/
theorem snd_poll_eq_self (h : (s.poll l).1 = false) : (s.poll l).2 = s := by
  cases hx : s.listeners[l]? with
  | none => rw [poll_of_getElem?_eq_none hx]
  | some x =>
      rw [poll_of_getElem? hx] at h ⊢
      obtain ⟨hl, rfl⟩ := List.getElem?_eq_some_iff.1 hx
      simp only [look_eq_self h, List.set_getElem_self]

/-- A listener that has noted a signal needs no other one. -/
theorem fst_poll_of_isShutdown (h : s.isShutdown l = true) : (s.poll l).1 = true := by
  rw [isShutdown, Option.any_eq_true] at h
  obtain ⟨x, hx, hsignalled⟩ := h
  rw [poll_of_getElem? hx, signalled_look, hsignalled, Bool.true_or, Bool.true_or]

/-- What is noted of a listener changes by its own looks alone. -/
theorem isShutdown_step (s : Shutdown) (operation : Operation) (l : Nat) :
    (s.step operation).isShutdown l =
      (s.isShutdown l || decide (operation = .poll l) && (s.poll l).1) := by
  cases operation with
  | subscribe =>
      have hnew : (s.step .subscribe).listeners = s.listeners ++ [⟨s.sent, false⟩] := rfl
      rcases Nat.lt_trichotomy l s.listeners.length with hl | rfl | hl
      · simp [isShutdown, hnew, List.getElem?_append_left hl]
      · simp [isShutdown, hnew]
      · have hnone : (s.listeners ++ [(⟨s.sent, false⟩ : Listener)])[l]? = none := by
          rw [List.getElem?_eq_none_iff, List.length_append]
          exact hl
        simp [isShutdown, hnew, hnone, List.getElem?_eq_none (Nat.le_of_lt hl)]
  | send =>
      have hsame : (s.step .send).listeners = s.listeners := by
        rw [step, send]
        split <;> rfl
      simp [isShutdown, hsame]
  | poll listener =>
      rw [step, isShutdown, getElem?_listeners_poll]
      by_cases heq : listener = l
      · subst heq
        cases hx : s.listeners[listener]? with
        | none => simp [isShutdown, hx, poll_of_getElem?_eq_none hx]
        | some x =>
            simp only [isShutdown, hx, poll_of_getElem? hx, if_true, Option.map_some,
              Option.any_some, decide_true, Bool.true_and, signalled_look]
            cases x.signalled <;> rfl
      · simp [isShutdown, heq]
  | dropSender => simp [step, dropSender, isShutdown]

/-- **What is noted of a listener is that some look of it was answered by a signal.** -/
theorem isShutdown_run_iff (capacity : Nat) (history : List Operation) (l : Nat) :
    (run capacity history).isShutdown l = true ↔ Completed capacity history l := by
  induction history using List.reverseRecOn with
  | nil => simp [run, isShutdown, not_completed_nil]
  | append_singleton history operation ih =>
      rw [completed_append_singleton, ← ih, run_append_singleton, isShutdown_step]
      simp

/-! ### The flag of one listener -/

/-- What of the operations concerns a listener: the sender's, and its own looks. -/
inductive Concern where
  | send
  | look
  | dropSender
deriving DecidableEq, Repr

/-- What an operation is to a listener. -/
def concern? (l : Nat) : Operation → Option Concern
  | .subscribe => none
  | .send => some .send
  | .poll listener => if listener = l then some .look else none
  | .dropSender => some .dropSender

theorem mem_filterMap_concern? {l : Nat} {concern : Concern} {operation : Operation}
    (h : ∀ other, concern? l other = some concern ↔ other = operation)
    (history : List Operation) :
    concern ∈ history.filterMap (concern? l) ↔ operation ∈ history := by
  simp [List.mem_filterMap, h]

theorem mem_filterMap_concern?_send (l : Nat) (history : List Operation) :
    Concern.send ∈ history.filterMap (concern? l) ↔ .send ∈ history :=
  mem_filterMap_concern? (fun other => by cases other <;> simp [concern?]) history

theorem mem_filterMap_concern?_dropSender (l : Nat) (history : List Operation) :
    Concern.dropSender ∈ history.filterMap (concern? l) ↔ .dropSender ∈ history :=
  mem_filterMap_concern? (fun other => by cases other <;> simp [concern?]) history

/-- The flag of a listener. -/
inductive Flag where
  /-- no signal yet -/
  | waiting
  /-- there is a signal, which the listener has not looked at -/
  | called
  /-- the listener has noted that it was signalled -/
  | noted
deriving DecidableEq, Repr

/-- What a listener depends on: whether the sender is gone, and its flag. -/
structure View where
  senderGone : Bool
  flag : Flag
deriving DecidableEq, Repr

namespace View

/-- What a look of the listener would answer. -/
def answer (v : View) : Bool := v.senderGone || v.flag ≠ .waiting

/-- The view after something that concerns the listener. -/
def step (v : View) : Concern → View
  | .send => if v.answer then v else { v with flag := .called }
  | .look => if v.answer then { v with flag := .noted } else v
  | .dropSender => { v with senderGone := true }

/-- The view after all that concerns the listener. -/
def run (v : View) (concerns : List Concern) : View := concerns.foldl step v

theorem answer_step (v : View) (concern : Concern) :
    (v.step concern).answer = true ↔
      v.answer = true ∨ concern = .send ∨ concern = .dropSender := by
  cases concern with
  | send =>
      rw [step]
      split
      · next hanswer => exact iff_of_true hanswer (.inl hanswer)
      · exact iff_of_true (by simp [answer]) (.inr (.inl rfl))
  | look =>
      rw [step]
      split
      · next hanswer => exact iff_of_true (by simp [answer]) (.inl hanswer)
      · simp
  | dropSender => simp [step, answer]

/-- **A look is answered by a signal exactly if one was sent or the sender is gone.** -/
theorem answer_run (v : View) (concerns : List Concern) :
    (v.run concerns).answer = true ↔
      v.answer = true ∨ .send ∈ concerns ∨ .dropSender ∈ concerns := by
  induction concerns generalizing v with
  | nil => simp [run]
  | cons concern concerns ih =>
      rw [run, List.foldl_cons, ← run, ih, answer_step, List.mem_cons, List.mem_cons]
      simp only [eq_comm]
      tauto

end View

/-- The view of a listener. -/
def view (s : Shutdown) (x : Listener) : View where
  senderGone := s.senderGone
  flag := if x.signalled then .noted else if x.next < s.sent then .called else .waiting

theorem answer_view (s : Shutdown) (x : Listener) :
    (s.view x).answer = (s.look x).signalled := by
  rw [signalled_look, View.answer, view]
  cases x.signalled <;> by_cases hnext : x.next < s.sent <;> simp [hnext, Bool.or_comm]

theorem fst_poll_eq_answer (hx : s.listeners[l]? = some x) :
    (s.poll l).1 = (s.view x).answer := by
  rw [poll_of_getElem? hx, answer_view]

theorem isShutdown_eq_flag (hx : s.listeners[l]? = some x) :
    s.isShutdown l = decide ((s.view x).flag = .noted) := by
  rw [isShutdown_of_getElem? hx, view]
  cases x.signalled <;> by_cases hnext : x.next < s.sent <;> simp [hnext]

/-- The view of a listener after its own look. -/
theorem view_look (s : Shutdown) (x : Listener) : s.view (s.look x) = (s.view x).step .look := by
  rw [View.step, answer_view]
  cases hsignalled : (s.look x).signalled with
  | true => simp [view, hsignalled]
  | false => rw [look_eq_self hsignalled, if_neg Bool.false_ne_true]

/-- **The flag follows what concerns the listener**, whatever is done. -/
theorem exists_view_step (hx : s.listeners[l]? = some x) (hnext : x.next ≤ s.sent)
    (operation : Operation) :
    ∃ y, (s.step operation).listeners[l]? = some y ∧ y.next ≤ (s.step operation).sent ∧
      (s.step operation).view y = (s.view x).run (concern? l operation).toList := by
  have hl := (List.getElem?_eq_some_iff.1 hx).1
  cases operation with
  | subscribe => exact ⟨x, (List.getElem?_append_left hl).trans hx, hnext, rfl⟩
  | send =>
      by_cases hgone : s.senderGone = true
      · have hsend : s.step .send = s := by
          rw [step, send, if_pos (.inl hgone)]
        refine ⟨x, ?_, ?_, ?_⟩
        · rwa [hsend]
        · rwa [hsend]
        · have hanswer : (s.view x).answer = true := by simp [View.answer, view, hgone]
          rw [hsend]
          exact (if_pos hanswer).symm
      · -- the channel takes the signal, and the listener has not looked at it
        have hsend : s.step .send = { s with sent := s.sent + 1 } := by
          rw [step, send, if_neg]
          rintro (h | h)
          · exact hgone h
          · simp [h] at hl
        refine ⟨x, ?_, ?_, ?_⟩
        · rwa [hsend]
        · rw [hsend]
          exact Nat.le_succ_of_le hnext
        · rw [hsend]
          cases hsignalled : x.signalled <;> by_cases hbehind : x.next < s.sent <;>
            simp [view, concern?, View.run, View.step, View.answer, hgone, hsignalled, hbehind,
              Nat.lt_succ_of_le hnext]
  | poll listener =>
      obtain ⟨hsent, hgone, -⟩ := s.poll_unchanged listener
      have hview : ∀ y, (s.poll listener).2.view y = s.view y := by
        intro y
        rw [view, view, hsent, hgone]
      simp only [step, hsent, hview, getElem?_listeners_poll, concern?, hx]
      by_cases heq : listener = l
      · simp only [heq, if_true]
        exact ⟨s.look x, rfl, next_look_le hnext, view_look s x⟩
      · simp only [heq, if_false]
        exact ⟨x, rfl, hnext, rfl⟩
  | dropSender => exact ⟨x, hx, hnext, rfl⟩

/-- There are as many listeners as have subscribed. -/
theorem length_listeners_run (capacity : Nat) (history : List Operation) :
    (run capacity history).listeners.length = history.count .subscribe := by
  induction history using List.reverseRecOn with
  | nil => rfl
  | append_singleton history operation ih =>
      rw [run_append_singleton, List.count_append, ← ih]
      cases operation with
      | subscribe => exact List.length_append
      | send =>
          rw [step, send]
          split <;> rfl
      | poll listener => exact (poll_unchanged _ listener).2.2
      | dropSender => rfl

/-- The sender is gone once it was dropped. -/
theorem senderGone_run (capacity : Nat) (history : List Operation) :
    (run capacity history).senderGone = decide (.dropSender ∈ history) := by
  induction history using List.reverseRecOn with
  | nil => rfl
  | append_singleton history operation ih =>
      rw [run_append_singleton]
      cases operation with
      | subscribe => simpa [step, subscribe] using ih
      | send =>
          rw [step, send]
          split <;> simpa using ih
      | poll listener => simpa [step, poll_unchanged] using ih
      | dropSender => simp [step, dropSender]

/-- **The flag of a listener after every history** is what concerned the listener since it
subscribed. -/
theorem exists_view_run (capacity : Nat) (before behind : List Operation) :
    ∃ x, (run capacity (before ++ .subscribe :: behind)).listeners[before.count .subscribe]? =
        some x ∧
      x.next ≤ (run capacity (before ++ .subscribe :: behind)).sent ∧
      (run capacity (before ++ .subscribe :: behind)).view x =
        View.run ⟨decide (.dropSender ∈ before), .waiting⟩
          (behind.filterMap (concern? (before.count .subscribe))) := by
  induction behind using List.reverseRecOn with
  | nil =>
      rw [run_append_singleton, ← length_listeners_run capacity before, ← senderGone_run capacity]
      refine ⟨_, List.getElem?_concat_length, Nat.le_refl _, ?_⟩
      simp [view, step, subscribe, View.run]
  | append_singleton behind operation ih =>
      obtain ⟨x, hx, hnext, hview⟩ := ih
      rw [← List.cons_append, ← List.append_assoc, run_append_singleton]
      obtain ⟨y, hy, hnext', hview'⟩ := exists_view_step hx hnext operation
      refine ⟨y, hy, hnext', ?_⟩
      rw [hview', hview, List.filterMap_append, View.run, View.run, View.run, List.foldl_append]
      rfl

/-- A look is answered by a signal exactly if one was sent since the listener subscribed, or the
sender is gone. -/
theorem fst_poll_run_iff (capacity : Nat) (before behind : List Operation) :
    ((run capacity (before ++ .subscribe :: behind)).poll (before.count .subscribe)).1 = true ↔
      .send ∈ behind ∨ .dropSender ∈ before ++ .subscribe :: behind := by
  obtain ⟨x, hx, -, hview⟩ := exists_view_run capacity before behind
  have hgone : View.answer ⟨decide (.dropSender ∈ before), .waiting⟩ = true ↔
      .dropSender ∈ before := by
    simp [View.answer]
  rw [fst_poll_eq_answer hx, hview, View.answer_run, mem_filterMap_concern?_send,
    mem_filterMap_concern?_dropSender, hgone]
  simp only [List.mem_append, List.mem_cons, reduceCtorEq, false_or]
  exact or_left_comm

/-- **A listener depends on nothing but what concerns it**: on whether the sender was gone when it
subscribed, on what the sender has done since then, and on its own looks. -/
theorem alike_of_concerns (capacity capacity' : Nat) {before' behind' : List Operation}
    (hgone : .dropSender ∈ before' ↔ .dropSender ∈ before)
    (hconcerns : behind'.filterMap (concern? (before'.count .subscribe)) =
      behind.filterMap (concern? (before.count .subscribe))) :
    ((run capacity' (before' ++ .subscribe :: behind')).poll (before'.count .subscribe)).1 =
        ((run capacity (before ++ .subscribe :: behind)).poll (before.count .subscribe)).1 ∧
      (run capacity' (before' ++ .subscribe :: behind')).isShutdown (before'.count .subscribe) =
        (run capacity (before ++ .subscribe :: behind)).isShutdown (before.count .subscribe) := by
  obtain ⟨x, hx, -, hview⟩ := exists_view_run capacity before behind
  obtain ⟨y, hy, -, hview'⟩ := exists_view_run capacity' before' behind'
  have hsame : (run capacity' (before' ++ .subscribe :: behind')).view y =
      (run capacity (before ++ .subscribe :: behind)).view x := by
    rw [hview', hview, hconcerns, decide_eq_decide.2 hgone]
  constructor
  · rw [fst_poll_eq_answer hx, fst_poll_eq_answer hy, hsame]
  · rw [isShutdown_eq_flag hx, isShutdown_eq_flag hy, hsame]

/-- Each listener subscribed at some time. -/
theorem exists_subscription (h : l < history.count .subscribe) :
    ∃ before behind, history = before ++ .subscribe :: behind ∧ before.count .subscribe = l := by
  induction history generalizing l with
  | nil => simp at h
  | cons operation history ih =>
      by_cases hoperation : operation = .subscribe
      · subst hoperation
        cases l with
        | zero => exact ⟨[], history, rfl, rfl⟩
        | succ l =>
            obtain ⟨before, behind, rfl, rfl⟩ := ih (by simpa using h)
            exact ⟨.subscribe :: before, behind, rfl, by simp⟩
      · obtain ⟨before, behind, rfl, rfl⟩ := ih (by simpa [hoperation] using h)
        exact ⟨operation :: before, behind, rfl, by simp [hoperation]⟩

/-! ### Answers and the capacity -/

/-- A number is reported where there are listeners, and it is the number of all of them. -/
theorem fst_send_run (hgone : .dropSender ∉ history) :
    (run capacity history).send.1 =
      if history.count .subscribe = 0 then none else some (history.count .subscribe) := by
  have hthere : (run capacity history).senderGone = false := by
    rw [senderGone_run, decide_eq_false hgone]
  simp only [send, hthere, ← length_listeners_run capacity history, List.length_eq_zero_iff,
    Bool.false_eq_true, false_or]
  split <;> rfl

/-- Looks are answered alike whatever the capacity. -/
theorem fst_poll_run_congr (capacity capacity' : Nat) (history : List Operation) (l : Nat) :
    ((run capacity' history).poll l).1 = ((run capacity history).poll l).1 := by
  by_cases hl : l < history.count .subscribe
  · obtain ⟨before, behind, rfl, rfl⟩ := exists_subscription hl
    exact (alike_of_concerns capacity capacity' Iff.rfl rfl).1
  · have hnone : ∀ c, (run c history).listeners[l]? = none := fun c =>
      List.getElem?_eq_none (Nat.le_of_not_lt (by rwa [length_listeners_run]))
    rw [poll_of_getElem?_eq_none (hnone capacity), poll_of_getElem?_eq_none (hnone capacity')]

theorem answer_run_congr (capacity capacity' : Nat) (history : List Operation)
    (operation : Operation) :
    (run capacity' history).answer operation = (run capacity history).answer operation := by
  cases operation with
  | send =>
      have hempty : ∀ c, (run c history).listeners = [] ↔ history.count .subscribe = 0 := by
        intro c
        rw [← length_listeners_run c history, List.length_eq_zero_iff]
      simp only [answer, send, senderGone_run, hempty, length_listeners_run]
      split <;> rfl
  | poll l => rw [answer, answer, fst_poll_run_congr capacity]
  | subscribe => rfl
  | dropSender => rfl

/-- Everything is answered alike whatever the capacity. -/
theorem answers_run_congr (capacity capacity' : Nat) (history more : List Operation) :
    (run capacity' history).answers more = (run capacity history).answers more := by
  induction more generalizing history with
  | nil => rfl
  | cons operation more ih =>
      rw [answers, answers, answer_run_congr capacity, ← run_append_singleton,
        ← run_append_singleton, ih]

/-- What is noted is the same whatever the capacity. -/
theorem isShutdown_run_congr (capacity capacity' : Nat) (history : List Operation) (l : Nat) :
    (run capacity' history).isShutdown l = (run capacity history).isShutdown l := by
  rw [Bool.eq_iff_iff, isShutdown_run_iff, isShutdown_run_iff]
  simp only [Completed, fst_poll_run_congr capacity]

/-! ### Main result -/

/-- **Signals are not missed, not forged, and they stay**, in every history of a sender and its
listeners.

* A look of a listener is answered by a signal exactly if one of its looks was before, or a signal
  was sent since it subscribed, or the sender is gone; and no look was ever answered so without
  one of the other two.  The answer, and what is noted of the listener, are the same in any other
  history where the sender has done the same and the listener has looked in the same places, however
  many listeners there are, whatever they do, and whatever the capacity.
* A listener is noted as signalled exactly if some look of it was answered so, and then for good.  A
  look that finds nothing changes nothing.
* A signal is told the number of all listeners that have subscribed, if there are any.
* Everything is answered alike whatever the capacity. -/
theorem signals_reach_listeners (capacity : Nat) (history : List Operation) :
    let s := run capacity history
    (∀ before behind, history = before ++ .subscribe :: behind →
      let l := before.count .subscribe
      ((s.poll l).1 = true ↔
        Completed capacity history l ∨ .send ∈ behind ∨ .dropSender ∈ history) ∧
      (Completed capacity history l → .send ∈ behind ∨ .dropSender ∈ history) ∧
      ∀ capacity' before' behind', (.dropSender ∈ before' ↔ .dropSender ∈ before) →
        behind'.filterMap (concern? (before'.count .subscribe)) = behind.filterMap (concern? l) →
        ((run capacity' (before' ++ .subscribe :: behind')).poll (before'.count .subscribe)).1 =
            (s.poll l).1 ∧
          (run capacity' (before' ++ .subscribe :: behind')).isShutdown
            (before'.count .subscribe) = s.isShutdown l) ∧
    (∀ l, (s.isShutdown l = true ↔ Completed capacity history l) ∧
      (∀ more, s.isShutdown l = true → (run capacity (history ++ more)).isShutdown l = true) ∧
      ((s.poll l).1 = false → (s.poll l).2 = s)) ∧
    (.dropSender ∉ history → s.send.1 =
      if history.count .subscribe = 0 then none else some (history.count .subscribe)) ∧
    ∀ capacity',
      ({ capacity := capacity' } : Shutdown).answers history =
          ({ capacity } : Shutdown).answers history ∧
        ∀ l, (run capacity' history).isShutdown l = s.isShutdown l := by
  intro s
  refine ⟨?_, fun l => ⟨isShutdown_run_iff capacity history l, fun more h => ?_, snd_poll_eq_self⟩,
    fst_send_run, fun capacity' => ⟨answers_run_congr capacity capacity' [] history,
      isShutdown_run_congr capacity capacity' history⟩⟩
  · rintro before behind rfl l
    have hlook : (s.poll l).1 = true ↔
        .send ∈ behind ∨ .dropSender ∈ before ++ .subscribe :: behind :=
      fst_poll_run_iff capacity before behind
    -- what was noted once is still answered, so it was not forged
    have hcompleted : Completed capacity (before ++ .subscribe :: behind) l → (s.poll l).1 = true :=
      fun h => fst_poll_of_isShutdown ((isShutdown_run_iff capacity _ l).2 h)
    refine ⟨?_, fun h => hlook.1 (hcompleted h), fun capacity' before' behind' =>
      alike_of_concerns capacity capacity'⟩
    rw [hlook]
    exact ⟨.inr, fun h => h.elim (fun h => hlook.1 (hcompleted h)) id⟩
  · have hcompleted : Completed capacity history l := (isShutdown_run_iff capacity history l).1 h
    exact (isShutdown_run_iff capacity _ l).2 (hcompleted.append more)

/-- In a channel that keeps one signal only, a listener falls behind.  Its look is answered all the
same, as it is in a channel that keeps four signals and where there is no other listener.  The
listener that subscribes last is not called by what was sent before. -/
theorem signals_reach_listeners_behind :
    let behind : List Operation := [.send, .send, .poll 0, .subscribe, .poll 2]
    let history : List Operation := [.subscribe, .send] ++ .subscribe :: behind
    let s := run 1 history
    (s.poll 1).1 = true ∧ s.isShutdown 1 = false ∧ ¬Completed 1 history 1 ∧
      Completed 1 history 0 ∧ s.isShutdown 0 = true ∧
      (s.poll 2).1 = false ∧ (s.poll 2).2 = s ∧ s.send.1 = some 3 ∧
      ((run 4 ([] ++ .subscribe :: [.send, .send])).poll 0).1 = true ∧
      ({ capacity := 4 } : Shutdown).answers history =
        [.nothing, .reached (some 1), .nothing, .reached (some 2), .reached (some 2), .looked true,
          .nothing, .looked false] := by
  intro behind history s
  obtain ⟨hlistener, hnoted, hsend, hcapacity⟩ := signals_reach_listeners 1 history
  obtain ⟨hlook, -, halike⟩ := hlistener [.subscribe, .send] behind rfl
  have hcalled : (s.poll 1).1 = true := hlook.2 (.inr (.inl (by decide)))
  have hother : (s.poll 2).1 = false := by decide
  have hfirst : s.isShutdown 0 = true := by decide
  refine ⟨hcalled, by decide, ?_, (hnoted 0).1.1 hfirst, hfirst, hother, (hnoted 2).2.2 hother,
    hsend (by decide), ?_, ?_⟩
  · rw [← (hnoted 1).1]
    decide
  · exact (halike 4 [] [.send, .send] (by decide) (by decide)).1.trans hcalled
  · rw [(hcapacity 4).1]
    decide

end Shutdown

end Framewire
