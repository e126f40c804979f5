/-
**The life of a connector as a function of its history.**

What a connector answers when it is asked to take a sink, to start, to stop or to send depends only
on what was asked of it before, and on whether what it needs to run can be had when it is started.
Servers and clients keep their lives apart, and a start of either can fail at several points, some
of them behind others that have succeeded; here both are shown to follow one rule, and whatever
fails leaves everything as it was.

Main definitions:

* `Standing.answer`, `Standing.next` — what a connector answers, and what its standing is then;
* `Standing.after`, `Standing.answers` — the same for several requests;
* `resources` — whether what a connector needs to run can be had;
* `World.History`, `World.history` — what was asked of a connector in a run, with the answers;
* `World.History.standing` — the standing that a history comes to.

Main results:

* `World.ask_spec` — one request, of a server or a client;
* `World.standing?_after`, `World.standing_induction` — every run;
* `World.ask_of_error` — a request that fails changes nothing but the log;
* `World.answers_follow_history` — **the contract of servers and clients**.
-/

import Framewire.Proofs.Usage

set_option autoImplicit false

namespace Framewire

/-! ### Answers -/

/-- Whether what a connector needs to run can be had: for a server an address and a listener at it,
and room in the queue to the sink for either. -/
def resources (n : Network) : ServerConfig ⊕ ClientConfig → Except Fault Unit
  | .inl config =>
    match config.bindAddress with
    | .error issue => .error issue.fault
    | .ok address =>
      match n.listen address with
      | .error error => .error (.illegalState (Server.bindText address error))
      | .ok _ =>
        if config.sinkChannelCapacity = 0 then
          .error (.invalidValue (Server.name ++ " sink channel capacity must be greater than 0"))
        else .ok ()
  | .inr config =>
    if config.sinkChannelCapacity = 0 then
      .error (.invalidValue (Client.name ++ " sink channel capacity must be greater than 0"))
    else .ok ()

namespace Standing

/-- What a connector answers; `acquired` is what acquiring its resources would come to. -/
def answer (st : Standing) (acquired : Except Fault Unit) : Request → Except Fault Unit
  | .setReceiver _ => if st.sink.isSome then .error Misuse.sinkTwice.fault else .ok ()
  | .start =>
    if st.sink.isNone then .error Misuse.startWithoutSink.fault
    else if st.destroyed then .error Misuse.startDestroyed.fault
    else if st.isRunning then .error Misuse.startTwice.fault
    else acquired
  | .stop | .destroy => .ok ()
  | .send _ =>
    if st.sink.isNone then .error Misuse.sendWithoutSink.fault
    else if st.isRunning then .ok ()
    else .error Misuse.sendStopped.fault

/-- The standing of a connector after it has answered a request. -/
def next (st : Standing) : Request → Except Fault Unit → Standing
  | .setReceiver receiver, _ => { st with sink := st.sink.or (some receiver) }
  | .start, .ok () => { st with isRunning := true }
  | .stop, _ => { st with isRunning := false }
  | .destroy, _ => { st with isRunning := false, destroyed := true }
  | .start, .error _ | .send _, _ => st

/-- The standing of a connector after it has answered several requests. -/
def after (st : Standing) (answered : List (Request × Except Fault Unit)) : Standing :=
  answered.foldl (fun st entry => st.next entry.1 entry.2) st

theorem after_append (st : Standing) (first later : List (Request × Except Fault Unit)) :
    st.after (first ++ later) = (st.after first).after later := List.foldl_append

/-- A sink that was set stays. -/
theorem sink_next {st : Standing} {receiver : Receiver} (h : st.sink = some receiver)
    (request : Request) (result : Except Fault Unit) :
    (st.next request result).sink = some receiver := by
  cases request with
  | setReceiver other => simp [next, h]
  | start => cases result <;> exact h
  | stop => exact h
  | destroy => exact h
  | send message => exact h

theorem sink_after {st : Standing} {receiver : Receiver} (h : st.sink = some receiver)
    (answered : List (Request × Except Fault Unit)) : (st.after answered).sink = some receiver := by
  induction answered generalizing st with
  | nil => exact h
  | cons entry answered ih => exact ih (sink_next h entry.1 entry.2)

/-- The answers to several requests, where resources can always be had. -/
def answers (st : Standing) : List Request → List (Request × Except Fault Unit)
  | [] => []
  | request :: requests =>
    let result := st.answer (.ok ()) request
    (request, result) :: (st.next request result).answers requests

/-- Only a start that nothing else stands against depends on what acquiring comes to. -/
theorem answer_eq_of_acquired {st : Standing} {acquired : Except Fault Unit} {request : Request}
    (h : request = .start → st.isRunning = false → acquired = .ok ()) :
    st.answer acquired request = st.answer (.ok ()) request := by
  cases request with
  | start =>
      rw [answer, answer]
      cases hrunning : st.isRunning with
      | false => rw [h rfl hrunning]
      | true => rfl
  | setReceiver receiver => rfl
  | stop => rfl
  | destroy => rfl
  | send message => rfl

/-- A start of a destroyed connector fails. -/
theorem answer_start_of_destroyed {st : Standing} (h : st.destroyed = true)
    (acquired : Except Fault Unit) : ∃ fault, st.answer acquired .start = .error fault := by
  rw [answer, if_pos h]
  split
  · exact ⟨_, rfl⟩
  · exact ⟨_, rfl⟩

/-- What was destroyed does not run. -/
def Sound (st : Standing) : Prop := st.destroyed = true → st.isRunning = false

theorem destroyed_next_start (st : Standing) (result : Except Fault Unit) :
    (st.next .start result).destroyed = st.destroyed := by
  cases result <;> rfl

theorem Sound.next {st : Standing} (h : st.Sound) (acquired : Except Fault Unit)
    (request : Request) : (st.next request (st.answer acquired request)).Sound := by
  cases request with
  | start =>
      rw [Sound, destroyed_next_start]
      intro hdestroyed
      obtain ⟨fault, hfault⟩ := answer_start_of_destroyed hdestroyed acquired
      rw [hfault]
      exact h hdestroyed
  | setReceiver receiver => exact h
  | stop => exact fun _ => rfl
  | destroy => exact fun _ => rfl
  | send message => exact h

theorem destroyed_next {st : Standing} (h : st.destroyed = true) (request : Request)
    (result : Except Fault Unit) : (st.next request result).destroyed = true := by
  cases request with
  | start => rwa [destroyed_next_start]
  | setReceiver receiver => exact h
  | stop => exact h
  | destroy => rfl
  | send message => exact h

end Standing

/-- A queue to the sink takes room for one message at least. -/
theorem SinkQueue.start_eq (name : String) (capacity : UInt64) :
    SinkQueue.start name capacity.toNat =
      if capacity = 0 then
        .error (.invalidValue (name ++ " sink channel capacity must be greater than 0"))
      else .ok { capacity := capacity.toNat } := by
  simp only [SinkQueue.start, ← UInt64.toNat_inj, UInt64.toNat_zero]

/-- What a server acquires. -/
theorem Server.acquire_spec (config : ServerConfig) (n : Network) :
    resources n (.inl config) = (acquire config n).2.map fun _ => () := by
  unfold resources acquire
  cases haddress : config.bindAddress with
  | error issue => simp only [haddress, Except.map]
  | ok address =>
      cases hlisten : n.listen address with
      | error error => simp only [haddress, hlisten, Except.map]
      | ok listener =>
          simp only [haddress, hlisten, SinkQueue.start_eq]
          split <;> rfl

/-- What a client acquires. -/
theorem Client.acquire_spec (config : ClientConfig) (n : Network) :
    resources n (.inr config) = (acquire config).map fun _ => () := by
  unfold resources acquire
  simp only [SinkQueue.start_eq]
  split <;> rfl

/-! ### Lives -/

namespace Lifecycle

variable {ρ : Type} {l l' : Lifecycle Receiver ρ} {receiver : Receiver}

theorem setSink_spec (h : l.setSink receiver = .ok l') (acquired result : Except Fault Unit) :
    l.standing.answer acquired (.setReceiver receiver) = .ok () ∧
      l'.standing = l.standing.next (.setReceiver receiver) result := by
  cases hsink : l.sink with
  | none =>
      obtain rfl : { l with sink := some receiver } = l' := by simpa [setSink, hsink] using h
      simp [Standing.answer, Standing.next, standing, isRunning, hsink]
  | some old => simp [setSink, hsink] at h

theorem setSink_refused {misuse : Misuse} (h : l.setSink receiver = .error misuse)
    (acquired result : Except Fault Unit) :
    l.standing.answer acquired (.setReceiver receiver) = .error misuse.fault ∧
      l.standing.next (.setReceiver receiver) result = l.standing := by
  cases hsink : l.sink with
  | none => simp [setSink, hsink] at h
  | some old =>
      obtain rfl : Misuse.sinkTwice = misuse := by simpa [setSink, hsink] using h
      simp [Standing.answer, Standing.next, standing, hsink]

/-- A start comes to what acquiring comes to, unless the life stands against it. -/
theorem answer_start (l : Lifecycle Receiver ρ) (acquired : Except Fault Unit) :
    l.standing.answer acquired .start = match l.startObstacle? with
      | some misuse => .error misuse.fault
      | none => acquired := by
  rw [Standing.answer, startObstacle?, standing]
  cases hsink : l.sink with
  | none => simp
  | some receiver =>
      cases hdestroyed : l.destroyed with
      | true => simp
      | false => cases hrunning : l.isRunning <;> simp

theorem answer_send (l : Lifecycle Receiver ρ) (acquired : Except Fault Unit) (message : Message) :
    l.standing.answer acquired (.send message) = match l.admitSend with
      | .error misuse => .error misuse.fault
      | .ok _ => .ok () := by
  rw [Standing.answer, admitSend, standing, isRunning]
  cases hsink : l.sink with
  | none => simp
  | some receiver => cases hrunning : l.running <;> simp

end Lifecycle

namespace World

variable {w w' : World} {id node : Nat} {config : ServerConfig ⊕ ClientConfig} {st : Standing}
  {request : Request}

/-! ### One request -/

/-- The configuration and the standing of the connector of a number. -/
def standing? (w : World) (id : Nat) : Option ((ServerConfig ⊕ ClientConfig) × Standing) :=
  (w.node? id).bind fun n => n.machine.standing?

theorem standing?_eq_some_iff :
    w.standing? id = some (config, st) ↔
      ∃ n, w.node? id = some n ∧ n.machine.standing? = some (config, st) :=
  Option.bind_eq_some_iff

/-- A connector is replaced. -/
theorem standing?_note_setMachine {n : Node} (hn : w.node? id = some n) (machine : Machine)
    (network : Network) (notices : List Notice) :
    (({ w with network }.setMachine id machine).note notices).standing? id =
      machine.standing? := by
  rw [note_setMachine hn, standing?, node?_set hn, if_pos rfl]
  rfl

/-- What a request comes to, for a connector with a standing. -/
def Answered (w : World) (id : Nat) (config : ServerConfig ⊕ ClientConfig) (st : Standing)
    (request : Request) (call : Call) : Prop :=
  call.1 = st.answer (resources w.network config) request ∧
    call.2.standing? id = some (config, st.next request call.1)

/-- A request that replaces the connector. -/
theorem answered_of_ok {n : Node} {machine : Machine} {network : Network} {notices : List Notice}
    (hn : w.node? id = some n) (hanswer : st.answer (resources w.network config) request = .ok ())
    (hnext : machine.standing? = some (config, st.next request (.ok ()))) :
    w.Answered id config st request
      (.ok (), ({ w with network }.setMachine id machine).note notices) :=
  ⟨hanswer.symm, (standing?_note_setMachine hn machine network notices).trans hnext⟩

/-- A request that fails. -/
theorem answered_of_error {fault : Fault} (h : w.standing? id = some (config, st))
    (hanswer : st.answer (resources w.network config) request = .error fault)
    (hnext : st.next request (.error fault) = st) (notices : List Notice) :
    w.Answered id config st request (.error fault, w.note notices) :=
  ⟨hanswer.symm, by rw [hnext]; exact h⟩

theorem ask_server {n : Node} {s : Server} (hn : w.node? id = some n) (hm : n.machine = .server s) :
    w.Answered id (.inl s.config) s.life.standing request (w.ask id request) := by
  have h : w.standing? id = some (.inl s.config, s.life.standing) :=
    standing?_eq_some_iff.2 ⟨n, hn, by rw [hm]; rfl⟩
  rw [ask, hn]
  dsimp only
  rw [hm]
  cases request with
  | setReceiver receiver =>
      cases hset : s.life.setSink receiver with
      | ok life =>
          have hlife := Lifecycle.setSink_spec hset (resources w.network (.inl s.config)) (.ok ())
          simp only [setReceiver, Server.setReceiver, hset]
          exact answered_of_ok hn hlife.1 (by rw [← hlife.2]; rfl)
      | error misuse =>
          have hlife := Lifecycle.setSink_refused hset (resources w.network (.inl s.config))
            (.error misuse.fault)
          simp only [setReceiver, Server.setReceiver, hset]
          exact answered_of_error h hlife.1 hlife.2 []
  | start =>
      have hanswer := Lifecycle.answer_start s.life (resources w.network (.inl s.config))
      cases hobstacle : s.life.startObstacle? with
      | some misuse =>
          rw [hobstacle] at hanswer
          simp only [start, Server.start, hobstacle]
          exact answered_of_error h hanswer rfl []
      | none =>
          rw [hobstacle] at hanswer
          have hacquire := Server.acquire_spec s.config w.network
          simp only [start, Server.start, hobstacle]
          cases hacquired : (Server.acquire s.config w.network).2 with
          | ok acquired =>
              rw [hacquired] at hacquire
              simp only [Except.map]
              exact answered_of_ok hn (hanswer.trans hacquire) rfl
          | error fault =>
              rw [hacquired] at hacquire
              simp only [Except.map]
              exact answered_of_error h (hanswer.trans hacquire) rfl _
  | stop =>
      simp only [stop, ended]
      refine answered_of_ok hn rfl ?_
      rw [Server.stop.eq_def]
      cases hrunning : s.life.running with
      | none =>
          simp [Machine.standing?, Standing.next, Lifecycle.standing, Lifecycle.isRunning, hrunning]
      | some round => rfl
  | destroy =>
      simp only [destroy, ended, Server.destroy]
      refine answered_of_ok hn rfl ?_
      rw [Server.stop.eq_def]
      cases hrunning : s.life.running with
      | none => rfl
      | some round => rfl
  | send message =>
      have hanswer := Lifecycle.answer_send s.life (resources w.network (.inl s.config)) message
      cases hgranted : s.life.admitSend with
      | ok round =>
          rw [hgranted] at hanswer
          simp only [send, Server.send, hgranted, Except.map, called]
          exact answered_of_ok hn hanswer rfl
      | error misuse =>
          rw [hgranted] at hanswer
          simp only [send, Server.send, hgranted, Except.map, called]
          exact answered_of_error h hanswer rfl []

theorem ask_client {n : Node} {c : Client} (hn : w.node? id = some n) (hm : n.machine = .client c) :
    w.Answered id (.inr c.config) c.life.standing request (w.ask id request) := by
  have h : w.standing? id = some (.inr c.config, c.life.standing) :=
    standing?_eq_some_iff.2 ⟨n, hn, by rw [hm]; rfl⟩
  rw [ask, hn]
  dsimp only
  rw [hm]
  cases request with
  | setReceiver receiver =>
      cases hset : c.life.setSink receiver with
      | ok life =>
          have hlife := Lifecycle.setSink_spec hset (resources w.network (.inr c.config)) (.ok ())
          simp only [setReceiver, Client.setReceiver, hset]
          exact answered_of_ok hn hlife.1 (by rw [← hlife.2]; rfl)
      | error misuse =>
          have hlife := Lifecycle.setSink_refused hset (resources w.network (.inr c.config))
            (.error misuse.fault)
          simp only [setReceiver, Client.setReceiver, hset]
          exact answered_of_error h hlife.1 hlife.2 []
  | start =>
      have hanswer := Lifecycle.answer_start c.life (resources w.network (.inr c.config))
      cases hobstacle : c.life.startObstacle? with
      | some misuse =>
          rw [hobstacle] at hanswer
          simp only [start, Client.start, Lifecycle.start, hobstacle, Except.map, called]
          exact answered_of_error h hanswer rfl []
      | none =>
          rw [hobstacle] at hanswer
          have hacquire := Client.acquire_spec c.config w.network
          simp only [start, Client.start, Lifecycle.start, hobstacle]
          cases hacquired : Client.acquire c.config with
          | ok round =>
              rw [hacquired] at hacquire
              simp only [Except.map, called]
              exact answered_of_ok hn (hanswer.trans hacquire) rfl
          | error fault =>
              rw [hacquired] at hacquire
              simp only [Except.map, called]
              exact answered_of_error h (hanswer.trans hacquire) rfl []
  | stop =>
      simp only [stop, ended]
      refine answered_of_ok hn rfl ?_
      rw [Client.stop.eq_def]
      cases hrunning : c.life.running with
      | none =>
          simp [Machine.standing?, Standing.next, Lifecycle.standing, Lifecycle.isRunning, hrunning]
      | some round => rfl
  | destroy =>
      simp only [destroy, ended, Client.destroy]
      refine answered_of_ok hn rfl ?_
      rw [Client.stop.eq_def]
      cases hrunning : c.life.running with
      | none => rfl
      | some round => rfl
  | send message =>
      have hanswer := Lifecycle.answer_send c.life (resources w.network (.inr c.config)) message
      cases hgranted : c.life.admitSend with
      | ok round =>
          have hrunning := (Lifecycle.admitSend_eq_ok_iff.1 hgranted).2
          rw [hgranted] at hanswer
          simp only [send, Client.send, hgranted, Except.map, called]
          refine answered_of_ok hn hanswer ?_
          simp [Machine.standing?, Standing.next, Lifecycle.standing, Lifecycle.isRunning, hrunning]
      | error misuse =>
          rw [hgranted] at hanswer
          simp only [send, Client.send, hgranted, Except.map, called]
          exact answered_of_error h hanswer rfl []

/-- **One request**: what it comes to depends on the standing of the connector only, be it a server
or a client. -/
theorem ask_spec (h : w.standing? id = some (config, st)) :
    w.Answered id config st request (w.ask id request) := by
  obtain ⟨n, hn, hst⟩ := standing?_eq_some_iff.1 h
  cases hm : n.machine with
  | server s =>
      obtain ⟨rfl, rfl⟩ : Sum.inl s.config = config ∧ s.life.standing = st := by
        simpa [hm, Machine.standing?] using hst
      exact ask_server hn hm
  | client c =>
      obtain ⟨rfl, rfl⟩ : Sum.inr c.config = config ∧ c.life.standing = st := by
        simpa [hm, Machine.standing?] using hst
      exact ask_client hn hm
  | pool r => simp [hm, Machine.standing?] at hst

/-- A request that fails changes nothing but what was noted. -/
theorem ask_of_error {fault : Fault} (h : (w.ask id request).1 = .error fault) :
    ∃ notices, (w.ask id request).2 = w.note notices := by
  have hcalls := ask_calls w id request
  generalize w.ask id request = call at h hcalls
  cases hcalls with
  | notes result notices => exact ⟨notices, rfl⟩
  | replaces hn machine network notices => simp at h

/-! ### Histories -/

/-- What was asked of a connector, with the answers, the first request first. -/
abbrev History := List (Request × Except Fault Unit)

namespace History

/-- The sink that was set first. -/
def sink? (h : History) : Option Receiver :=
  h.findSome? fun
    | (.setReceiver receiver, _) => some receiver
    | _ => none

/-- Whether the connector was destroyed. -/
def destroyed (h : History) : Bool :=
  h.any fun
    | (.destroy, _) => true
    | _ => false

/-- Whether the connector was started, and neither stopped nor destroyed after that. -/
def isRunning (h : History) : Bool :=
  (h.filterMap fun
    | (.start, .ok ()) => some true
    | (.stop, _) | (.destroy, _) => some false
    | _ => none).getLastD false

/-- The standing that a history comes to. -/
def standing (h : History) : Standing := ⟨h.sink?, h.destroyed, h.isRunning⟩

theorem standing_append_singleton (h : History) (request : Request) (result : Except Fault Unit) :
    standing (h ++ [(request, result)]) = h.standing.next request result := by
  simp only [standing, sink?, destroyed, isRunning, List.findSome?_append, List.any_append,
    List.filterMap_append]
  cases request with
  | setReceiver receiver => simp [Standing.next]
  | start => cases result <;> simp [Standing.next]
  | stop => simp [Standing.next]
  | destroy => simp [Standing.next]
  | send message => simp [Standing.next]

/-- The standing that a history comes to, request by request. -/
theorem standing_eq_after (h : History) : h.standing = Standing.after {} h := by
  suffices ∀ first : History, standing (first ++ h) = first.standing.after h from this []
  induction h with
  | nil =>
      intro first
      rw [List.append_nil]
      rfl
  | cons entry h ih =>
      intro first
      rw [List.append_cons, ih, standing_append_singleton]
      rfl

end History

/-- What something that happens adds to the history of a connector. -/
def record (w : World) (id : Nat) : Happening → History
  | .ask node request => if node = id then [(request, (w.ask id request).1)] else []
  | .act _ | .use _ => []

/-- The history of a connector while several things happen. -/
def history (w : World) (id : Nat) : List Happening → History
  | [] => []
  | happening :: happenings =>
    w.record id happening ++ (w.happen happening).history id happenings

@[simp] theorem history_nil (w : World) (id : Nat) : w.history id [] = [] := rfl

theorem history_cons (w : World) (id : Nat) (happening : Happening)
    (happenings : List Happening) :
    w.history id (happening :: happenings) =
      w.record id happening ++ (w.happen happening).history id happenings := rfl

/-- Replacing a connector is nothing to the others. -/
theorem standing?_set_of_ne {n : Node} (hn : w.node? node = some n) (n' : Node)
    (network : Network) (notices : List Notice) (hid : id ≠ node) :
    (w.set node n' network notices).standing? id = w.standing? id := by
  rw [standing?, node?_set hn, if_neg hid, standing?]

/-- **One step**: what happens changes the standing of a connector by what it answers. -/
theorem standing?_happen (h : w.standing? id = some (config, st)) (happening : Happening) :
    (w.happen happening).standing? id = some (config, st.after (w.record id happening)) := by
  cases happening with
  | ask node request =>
      rw [record, happen]
      by_cases hid : node = id
      · subst hid
        rw [if_pos rfl]
        exact (ask_spec h).2
      · rw [if_neg hid]
        have hcalls := ask_calls w node request
        generalize w.ask node request = call at hcalls
        cases hcalls with
        | notes result notices => exact h
        | replaces hn machine network notices =>
            exact (standing?_set_of_ne hn _ _ _ (Ne.symm hid)).trans h
  | act action =>
      rw [record, happen]
      cases hact : w.act action with
      | none => exact h
      | some w' =>
          obtain ⟨ms, -, rfl⟩ | ⟨node, -, n, network, machine, received, notices, hn, hmoves, -,
            rfl⟩ := act_spec hact
          · exact h
          · refine Eq.trans ?_ h
            by_cases hid : id = node
            · subst hid
              rw [Option.getD_some, standing?, node?_set hn, if_pos rfl, standing?, hn]
              exact hmoves.standing?_eq
            · exact standing?_set_of_ne hn _ _ _ hid
  | use use => exact h

/-- **Every run**: the standing of a connector is that of its history. -/
theorem standing?_after (h : w.standing? id = some (config, st)) (happenings : List Happening) :
    (w.after happenings).standing? id = some (config, st.after (w.history id happenings)) := by
  induction happenings generalizing w st with
  | nil => exact h
  | cons happening happenings ih =>
      rw [history_cons, Standing.after_append]
      exact ih (standing?_happen h happening)

/-- **What every answer keeps, every run keeps.** -/
theorem standing_induction {P : Standing → Prop}
    (hnext : ∀ st acquired request, P st → P (st.next request (st.answer acquired request)))
    {st' : Standing} (h : w.standing? id = some (config, st)) (hst : P st)
    (happenings : List Happening) (h' : (w.after happenings).standing? id = some (config, st')) :
    P st' := by
  induction happenings generalizing w st with
  | nil =>
      obtain rfl : st = st' := by simpa using h.symm.trans h'
      exact hst
  | cons happening happenings ih =>
      refine ih (standing?_happen h happening) ?_ h'
      cases happening with
      | ask node request =>
          rw [record]
          split
          · rw [(ask_spec h).1]
            exact hnext st _ request hst
          · exact hst
      | act action => exact hst
      | use use => exact hst

/-- A connector that was destroyed never starts again. -/
theorem start_of_destroyed (h : w.standing? id = some (config, st)) (hdestroyed : st.destroyed = true)
    (later : List Happening) : ∃ fault, ((w.after later).ask id .start).1 = .error fault := by
  have hlater := standing?_after h later
  have hkept : (st.after (w.history id later)).destroyed = true :=
    standing_induction (P := fun st => st.destroyed = true)
      (fun _ _ request hst => Standing.destroyed_next hst request _) h hdestroyed later hlater
  rw [(ask_spec hlater).1]
  exact Standing.answer_start_of_destroyed hkept _

/-- Where resources can be had at every start, the answers are a function of the requests. -/
theorem history_eq_answers (h : w.standing? id = some (config, st)) (happenings : List Happening)
    (hresources : ∀ before later, happenings = before ++ .ask id .start :: later →
      (st.after (w.history id before)).isRunning = false →
        resources (w.after before).network config = .ok ()) :
    w.history id happenings = st.answers ((w.history id happenings).map Prod.fst) := by
  induction happenings generalizing w st with
  | nil => rfl
  | cons happening happenings ih =>
      have hlater := ih (standing?_happen h happening) fun before later hbefore hrunning =>
        hresources (happening :: before) later (by rw [hbefore]; rfl)
          (by rwa [history_cons, Standing.after_append])
      cases happening with
      | ask node request =>
          rw [history_cons]
          rw [record] at hlater ⊢
          split
          · next hid =>
            subst hid
            rw [if_pos rfl] at hlater
            have hanswer : (w.ask node request).1 = st.answer (.ok ()) request := by
              rw [(ask_spec h).1]
              refine Standing.answer_eq_of_acquired fun hstart hrunning => ?_
              exact hresources [] happenings (by rw [hstart]; rfl) hrunning
            rw [List.singleton_append, List.map_cons, Standing.answers, ← hanswer]
            exact congrArg _ hlater
          · next hid =>
            rw [if_neg hid] at hlater
            exact hlater
      | act action => exact hlater
      | use use => exact hlater

/-! ### The contract -/

/-- A connector that does not run is stopped already. -/
theorem ask_stop_of_not_running (h : w.standing? id = some (config, st))
    (hrunning : st.isRunning = false) : w.ask id .stop = (.ok (), w) := by
  obtain ⟨n, hn, hst⟩ := standing?_eq_some_iff.1 h
  have hsame : ({ w with network := w.network }.setMachine id n.machine).note [] = w := by
    rw [note_setMachine hn]
    exact set_self hn
  rw [ask, hn]
  dsimp only
  cases hm : n.machine with
  | server s =>
      obtain ⟨-, rfl⟩ : Sum.inl s.config = config ∧ s.life.standing = st := by
        simpa [hm, Machine.standing?] using hst
      have hstop : s.stop w.network = ([], s, w.network) := by
        rw [Server.stop, Lifecycle.running_eq_none_iff.2 hrunning]
      rw [stop, hstop]
      rw [hm] at hsame
      exact congrArg _ hsame
  | client c =>
      obtain ⟨-, rfl⟩ : Sum.inr c.config = config ∧ c.life.standing = st := by
        simpa [hm, Machine.standing?] using hst
      have hstop : c.stop w.network = ([], c, w.network) := by
        rw [Client.stop, Lifecycle.running_eq_none_iff.2 hrunning]
      rw [stop, hstop]
      rw [hm] at hsame
      exact congrArg _ hsame
  | pool r => simp [hm, Machine.standing?] at hst

/-- A stop is idempotent. -/
theorem ask_stop_ask_stop (h : w.standing? id = some (config, st)) :
    (w.ask id .stop).2.ask id .stop = (.ok (), (w.ask id .stop).2) :=
  ask_stop_of_not_running (ask_spec h).2 rfl

theorem record_unlogged (w : World) (id : Nat) (happening : Happening) :
    w.unlogged.record id happening = w.record id happening := by
  cases happening with
  | ask node request =>
      have hask : (w.unlogged.ask id request).1 = (w.ask id request).1 := (ask_alike rfl request).1
      rw [record, record, hask]
  | act action => rfl
  | use use => rfl

/-- What was noted has no influence on histories. -/
theorem history_unlogged (w : World) (id : Nat) (happenings : List Happening) :
    w.unlogged.history id happenings = w.history id happenings := by
  induction happenings generalizing w with
  | nil => rfl
  | cons happening happenings ih =>
      rw [history_cons, history_cons, record_unlogged, ← ih, unlogged_happen, ih]

theorem standing?_inhabited {host : Host} {configs : List (ServerConfig ⊕ ClientConfig)}
    (hconfig : configs[id]? = some config) :
    (inhabited host configs).standing? id = some (config, {}) := by
  have hnode : (inhabited host configs).node? id = some { machine := .ofConfig config } := by
    rw [node?, inhabited, List.getElem?_map, hconfig]
    rfl
  rw [standing?, hnode]
  cases config <;> rfl

/-- The standing of a connector after a run that began with it. -/
theorem standing?_history {host : Host} {configs : List (ServerConfig ⊕ ClientConfig)}
    (hconfig : configs[id]? = some config) (happenings : List Happening) :
    ((inhabited host configs).after happenings).standing? id =
      some (config, ((inhabited host configs).history id happenings).standing) := by
  rw [standing?_after (standing?_inhabited hconfig), History.standing_eq_after]

/-- **What a connector answers is a function of its history.**  The connectors of a world are servers
and clients; requests are made of all of them, actions and plain peers come between.

* The standing of a connector is that of its history: the sink is the first one that was set, it is
  destroyed if it was ever asked to be, and it runs if it was started after the last stop.
* Every request is answered as the standing says; a start also depends on whether what the connector
  needs can be had then.
* Once it has been destroyed, it is granted neither a start nor a message, whatever happens.
* A second stop changes nothing.
* A request that fails changes nothing but what was noted, and no later answer of any connector.
* If what it needs could be had at every start, its answers are a function of its requests alone, and
  the same for servers and clients. -/
theorem answers_follow_history (host : Host) (configs : List (ServerConfig ⊕ ClientConfig))
    (id : Nat) (config : ServerConfig ⊕ ClientConfig) (hconfig : configs[id]? = some config)
    (happenings : List Happening) :
    let w := (inhabited host configs).after happenings
    let h := (inhabited host configs).history id happenings
    w.standing? id = some (config, h.standing) ∧
      (∀ request, (w.ask id request).1 =
        h.standing.answer (resources w.network config) request) ∧
      (h.destroyed = true → ∀ later request,
        request = .start ∨ (∃ message, request = .send message) →
          ((w.after later).ask id request).1 ≠ .ok ()) ∧
      (w.ask id .stop).2.ask id .stop = (.ok (), (w.ask id .stop).2) ∧
      (∀ request fault, (w.ask id request).1 = .error fault →
        let w' := (w.ask id request).2
        (w'.network = w.network ∧ w'.nodes = w.nodes ∧ w'.now = w.now) ∧
          ∀ later, (w'.after later).unlogged = (w.after later).unlogged ∧
            ∀ node, w'.history node later = w.history node later) ∧
      ((∀ before later, happenings = before ++ .ask id .start :: later →
          ((inhabited host configs).history id before).isRunning = false →
            resources ((inhabited host configs).after before).network config = .ok ()) →
        h = Standing.answers {} (h.map Prod.fst)) := by
  intro w h
  have hstanding : w.standing? id = some (config, h.standing) :=
    standing?_history hconfig happenings
  have hsound : h.standing.Sound :=
    standing_induction (P := Standing.Sound)
      (fun _ acquired request hst => hst.next acquired request) (standing?_inhabited hconfig)
      (fun _ => rfl) happenings hstanding
  refine ⟨hstanding, fun request => (ask_spec hstanding).1, ?_, ask_stop_ask_stop hstanding, ?_, ?_⟩
  · intro hdestroyed later request hrequest
    obtain rfl | ⟨message, rfl⟩ := hrequest
    · obtain ⟨fault, hfault⟩ := start_of_destroyed hstanding hdestroyed later
      simp [hfault]
    · have hlater := standing?_after hstanding later
      obtain ⟨hsound, hkept⟩ := standing_induction (P := fun st => st.Sound ∧ st.destroyed = true)
        (fun _ acquired request hst =>
          ⟨hst.1.next acquired request, Standing.destroyed_next hst.2 _ _⟩)
        hstanding ⟨hsound, hdestroyed⟩ later hlater
      rw [(ask_spec hlater).1, Standing.answer, hsound hkept]
      split <;> simp
  · intro request fault hfault w'
    obtain ⟨notices, hnoted⟩ := ask_of_error hfault
    have hw' : w' = w.note notices := hnoted
    rw [hw']
    refine ⟨⟨rfl, rfl, rfl⟩, fun later => ⟨?_, fun node => ?_⟩⟩
    · rw [← unlogged_after, ← unlogged_after w]
      rfl
    · rw [← history_unlogged, ← history_unlogged w]
      rfl
  · intro hresources
    refine history_eq_answers (standing?_inhabited hconfig) happenings
      fun before later hbefore hrunning => ?_
    rw [← History.standing_eq_after] at hrunning
    exact hresources before later hbefore hrunning

/-- Two servers are for one port, and a client has no room for messages.  The second server fails to
start while the first one runs, which makes no difference to what comes after, and starts when the
first one has been destroyed; the client never starts. -/
theorem answers_follow_history_of_two_servers :
    let server : ServerConfig ⊕ ClientConfig := .inl { port := 4000 }
    let client : ServerConfig ⊕ ClientConfig := .inr { sinkChannelCapacity := 0 }
    let happenings : List Happening := [.ask 0 (.setReceiver {}), .ask 0 .start,
      .ask 1 (.setReceiver {}), .ask 2 (.setReceiver {}), .ask 2 .start]
    let w := (inhabited .connected [server, server, client]).after happenings
    let w' := (inhabited .connected [server, server, client]).after (happenings ++ [.ask 0 .destroy])
    [server, server, client][1]? = some server ∧
      (∃ fault, (w.ask 1 .start).1 = .error fault ∧
        ∀ later, ((w.ask 1 .start).2.after later).unlogged = (w.after later).unlogged) ∧
      (w'.ask 1 .start).1 = .ok () ∧ ((w'.ask 1 .start).2.ask 0 .start).1 ≠ .ok () ∧
      (w'.ask 2 .start).1 =
        .error (.invalidValue (Client.name ++ " sink channel capacity must be greater than 0")) := by
  intro server client happenings w w'
  obtain ⟨-, hanswer, -, -, hfailed, -⟩ :=
    answers_follow_history .connected [server, server, client] 1 server rfl happenings
  obtain ⟨-, -, hdestroyed, -⟩ := answers_follow_history .connected [server, server, client] 0 server
    rfl (happenings ++ [.ask 0 .destroy])
  obtain ⟨-, hanswer', -⟩ := answers_follow_history .connected [server, server, client] 1 server rfl
    (happenings ++ [.ask 0 .destroy])
  obtain ⟨-, hclient, -⟩ := answers_follow_history .connected [server, server, client] 2 client rfl
    (happenings ++ [.ask 0 .destroy])
  obtain ⟨fault, hfault⟩ : ∃ fault, (w.ask 1 .start).1 = .error fault := by
    rw [hanswer]
    exact ⟨_, rfl⟩
  refine ⟨rfl, ⟨fault, hfault, fun later => ((hfailed .start fault hfault).2 later).1⟩, ?_,
    hdestroyed rfl [.ask 1 .start] .start (.inl rfl), ?_⟩
  · rw [hanswer']
    rfl
  · rw [hclient]
    rfl

end World

end Framewire
