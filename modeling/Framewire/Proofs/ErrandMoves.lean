/-
**What the client on an errand does by itself.**

The slot of the client dials, and by that the frame is written; then the client reads, hands over and
delivers what the destination says, until it finds the end, ends the connection and evicts its slot.
Each of this brings the errand nearer to its end.  There is nothing that the client could write
again, nor a payload for which it could dial again.

Main definitions:

* `Errand.Proceeds` — an errand comes nearer to its end;
* `Errand.Talk.opened` — the connection as it has just been made.

Main results:

* `Errand.Good.dial`, `Errand.Good.settle`, `Errand.Good.read`, `Errand.Good.dispatch`,
  `Errand.Good.deliver`, `Errand.Good.evict`, `Errand.Good.write_eq_none` — what the client does;
* `Errand.Good.act` — **every action of the client keeps an errand in order and takes effort off it**.
-/

import Framewire.Proofs.CallerMoves
import Framewire.Proofs.Errands

set_option autoImplicit false

namespace Framewire

namespace Errand

variable {e : Errand} {s : Scene} {n : Network} {t t' : Talk} {stage stage' : Stage} {w' : World}
  {config : ClientConfig} {r r' : Client.Round} {received received' : List Message} {id most : Nat}
  {handler : Handler}

/-- An errand comes nearer to its end in another world. -/
def Proceeds (e : Errand) (s : Scene) (stage : Stage) (w' : World) : Prop :=
  ∃ stage', Good e { s with world := w' } stage' ∧ effort e stage' s.visits < effort e stage s.visits

theorem Slot.eq_serving {x : Slot} (h : x.handler? = some handler) : x = .serving handler := by
  cases x with
  | serving handler' => exact congrArg Slot.serving (Option.some.inj h)
  | ending => simp [Slot.handler?] at h
  | evicted => simp [Slot.handler?] at h

namespace Talk

/-- The connection as it has just been made, with the frame on its way. -/
def opened (e : Errand) (address : Endpoint) (idle : Option Nat) (now : Nat) : Talk where
  address
  visit := { socket := e.socket + 1 }
  rest := e.frame
  down := .opened e.destination []
  slot := .serving (.new e.destination idle now)

theorem sound_opened (e : Errand) (address : Endpoint) (idle : Option Nat) (now : Nat) :
    (opened e address idle now).Sound e where
  socket := rfl
  frame := rfl
  hears := Exchange.Flow.hears_opened _ _
  handles handler hslot := by
    obtain rfl := Option.some.inj hslot
    exact ⟨rfl, rfl⟩
  ended hslot := by simp [opened, Slot.handler?] at hslot
  left hstays := by simp [opened] at hstays

/-- A dial that is answered makes the two sockets of the connection. -/
theorem carried_opened (hnumber : n.sockets.length = e.socket) (idle : Option Nat) (now : Nat) :
    (opened e (n.nextAddress e.destination) idle now).Carried e
      (n.connected e.socket e.listener e.destination e.frame) := by
  have hsockets := Network.socket?_connected hnumber e.listener e.destination e.frame
  exact ⟨(hsockets _).trans (if_pos rfl),
    (hsockets _).trans ((if_neg (Nat.succ_ne_self _)).trans (if_pos rfl))⟩

/-- The two sockets stay as they are. -/
theorem Carried.congr (hc : t.Carried e n) (hnear : t'.near e = t.near e)
    (hfar : t'.far e = t.far e) : t'.Carried e n :=
  ⟨hc.near.trans (congrArg some hnear.symm), hc.far.trans (congrArg some hfar.symm)⟩

/-- The client closes its socket, of which it has read everything. -/
theorem Carried.close_near (hc : t.Carried e n) (hslot : t.slot = .serving handler)
    (harrived : t.down.arrived = []) :
    { t with slot := .ending }.Carried e (n.close e.socket) := by
  have hopen : (t.near e).isOpen = true := by simp [Talk.near, hslot, Slot.handler?]
  have hsockets := Network.socket?_close hc.near hopen hopen harrived
    (show e.socket + 1 ≠ e.socket by omega)
  constructor
  · rw [hsockets, if_pos rfl]
    rfl
  · rw [hsockets, if_neg (by omega), if_pos (show e.socket + 1 = (t.near e).twin from rfl), hc.far]
    simp [Talk.far, hslot, Slot.handler?]

end Talk

/-! ### The client's connection -/

namespace Desk

/-- A connection of the client is the one that its slot serves. -/
theorem of_mem (hd : Desk e stage r received) {a : Attached} (ha : a ∈ r.hub.attached) :
    ∃ t handler, stage = .linked t ∧ t.slot = .serving handler ∧ a = ⟨1, e.socket, handler⟩ := by
  rw [hd.attached, Option.mem_toList] at ha
  cases stage with
  | linked t =>
      obtain ⟨handler, hslot, rfl⟩ := Option.map_eq_some_iff.1 ha
      exact ⟨t, handler, rfl, Slot.eq_serving hslot, rfl⟩
  | waiting => simp [Stage.attached?] at ha
  | dialing => simp [Stage.attached?] at ha

theorem of_attached (hd : Desk e stage r received) {a : Attached}
    (ha : r.hub.attached? id = some a) :
    ∃ t handler, stage = .linked t ∧ t.slot = .serving handler ∧ id = 1 ∧
      a = ⟨1, e.socket, handler⟩ := by
  obtain ⟨t, handler, hstage, hslot, rfl⟩ := hd.of_mem (List.mem_of_find?_eq_some ha)
  exact ⟨t, handler, hstage, hslot, (Hub.id_of_attached? ha).symm, rfl⟩

theorem attached_serving (hd : Desk e (.linked t) r received) (hslot : t.slot = .serving handler) :
    r.hub.attached = [⟨1, e.socket, handler⟩] := by
  rw [hd.attached, Stage.attached?, hslot]
  rfl

theorem attached_one (hd : Desk e (.linked t) r received) (hslot : t.slot = .serving handler) :
    r.hub.attached? 1 = some ⟨1, e.socket, handler⟩ := by
  rw [Hub.attached?, hd.attached_serving hslot]
  rfl

/-- The connection goes on with another handler. -/
theorem attached_setHandler (hd : Desk e (.linked t) r received) (hslot : t.slot = .serving handler)
    {handler' : Handler} (hslot' : t'.slot = .serving handler') :
    (r.hub.setHandler 1 handler').attached = ((Stage.linked t').attached? e).toList := by
  rw [Hub.setHandler, hd.attached_serving hslot, Stage.attached?, hslot']
  rfl

/-- No slot dials while the client is connected. -/
theorem dials_eq_nil (hd : Desk e (.linked t) r received) : r.dials = [] := by
  refine List.eq_nil_iff_forall_not_mem.2 fun entry hentry => ?_
  cases (hd.timed.dials entry hentry).1

/-- The timer of the connection is that of the handler that serves it. -/
theorem active (hd : Desk e (.linked t) r received) (hslot : t.slot = .serving handler) :
    handler.timer.timeout = e.idle ∧ e.since ≤ handler.timer.lastActivity := by
  refine hd.timed.active ⟨1, e.socket, handler⟩ ?_
  rw [Stage.attached?, hslot]
  rfl

/-- What the client waits for once it has been connected. -/
theorem timed_linked (hd : Desk e (.linked t) r received) (hidle : r'.idleTimeout = r.idleTimeout)
    (hdials : r'.dials = r.dials)
    (hactive : ∀ handler, t'.slot.handler? = some handler →
      handler.timer.timeout = e.idle ∧ e.since ≤ handler.timer.lastActivity) :
    Timed e (.linked t') r' where
  idle := hidle.trans hd.timed.idle
  dials entry hentry := by
    rw [hdials, hd.dials_eq_nil] at hentry
    cases hentry
  active a ha := by
    obtain ⟨handler, hslot, rfl⟩ := Option.map_eq_some_iff.1 ha
    exact hactive handler hslot

/-- As long as the slot serves its connection, nothing waits in its queue. -/
theorem pool_of_serving (hd : Desk e (.linked t) r received) (hslot : t.slot = .serving handler) :
    r.pool = .solo e.destination [] .connected := by
  rw [hd.pool, Stage.pool, hslot]
  rfl

/-- What the slot of the client is about, if there is one. -/
theorem of_task? (hd : Desk e stage r received) {task : Pool.Task Bytes}
    (htask : r.pool.task? id = some task) :
    id = 1 ∧ (stage = .waiting ∧ task.phase = .waiting ∨
      stage = .dialing ∧ task.phase = .dialing e.frame ∨
      (∃ t, stage = .linked t ∧ t.slot = .ending ∧ task.phase = .ending) ∨
      task.phase = .connected) := by
  have hpool := hd.pool
  cases stage with
  | waiting =>
      obtain ⟨hid, rfl⟩ := Client.Round.eq_one_of_task? hpool htask
      exact ⟨hid, .inl ⟨rfl, rfl⟩⟩
  | dialing =>
      obtain ⟨hid, rfl⟩ := Client.Round.eq_one_of_task? hpool htask
      exact ⟨hid, .inr (.inl ⟨rfl, rfl⟩)⟩
  | linked t =>
      rw [Stage.pool] at hpool
      cases hslot : t.slot with
      | serving handler =>
          rw [hslot] at hpool
          obtain ⟨hid, rfl⟩ := Client.Round.eq_one_of_task? hpool htask
          exact ⟨hid, .inr (.inr (.inr rfl))⟩
      | ending =>
          rw [hslot] at hpool
          obtain ⟨hid, rfl⟩ := Client.Round.eq_one_of_task? hpool htask
          exact ⟨hid, .inr (.inr (.inl ⟨t, rfl, hslot, rfl⟩))⟩
      | evicted =>
          rw [hslot] at hpool
          rw [hpool] at htask
          simp [Slot.pool, Pool.task?] at htask

end Desk

namespace Good

theorem node?_zero (h : Good e s stage) : ∃ config r received,
    s.world.node? 0 = some ⟨.client (.plain config r), received⟩ ∧ Desk e stage r received := by
  obtain ⟨config, r, received, hnodes, hd⟩ := h.client
  refine ⟨config, r, received, ?_, hd⟩
  rw [World.node?, hnodes]
  rfl

/-- The client has done something: it is in another state, and the network perhaps, too. -/
theorem change (h : Good e s stage) (config : ClientConfig) (stage' : Stage) {notices : List Notice}
    (hd : Desk e stage' r' received') (hplace : Place e n s.visits stage')
    (heffort : effort e stage' s.visits < effort e stage s.visits) :
    Proceeds e s stage
      (s.world.set 0 ⟨.client (.plain config r'), received'⟩ n notices) := by
  obtain ⟨_, r, received, hnodes, -⟩ := h.client
  refine ⟨stage', ⟨h.listener, h.clock, ⟨config, r', received', ?_, hd⟩, hplace⟩, heffort⟩
  change s.world.nodes.set 0 _ = _
  rw [hnodes]
  rfl

/-- A handler that looks at everything that may happen is that of the client's slot. -/
theorem of_selecting (h : Good e s stage) {machine : Machine} {a : Attached}
    (hselecting : s.world.selecting? 0 id = some (machine, a)) :
    ∃ t handler config r received, stage = .linked t ∧ t.slot = .serving handler ∧ id = 1 ∧
      machine = .client (.plain config r) ∧ a = ⟨1, e.socket, handler⟩ ∧
      s.world.node? 0 = some ⟨.client (.plain config r), received⟩ ∧ Desk e stage r received ∧
      t.down.undelivered = [] := by
  obtain ⟨config, r, received, hn, hd⟩ := h.node?_zero
  rw [World.selecting?_eq hn (show _ = some r.hub from rfl)] at hselecting
  obtain ⟨a', hattached, heq⟩ := Option.map_eq_some_iff.1 hselecting
  obtain ⟨rfl, rfl⟩ := Prod.mk.inj heq
  obtain ⟨ha, hundelivered⟩ := Hub.selecting?_eq_some_iff.1 hattached
  obtain ⟨t, handler, rfl, hslot, rfl, rfl⟩ := hd.of_attached ha
  have hhandles := h.place.1.handles handler (by rw [hslot]; rfl)
  exact ⟨t, handler, config, r, received, rfl, hslot, rfl, rfl, rfl, hn, hd,
    hhandles.undelivered.symm.trans hundelivered⟩

/-! ### Reading and writing -/

section Reading

variable (h : Good e s (.linked t)) (hslot : t.slot = .serving handler)
  (hselecting : s.world.selecting? 0 1 =
    some (.client (.plain config r), ⟨1, e.socket, handler⟩))
  (hn : s.world.node? 0 = some ⟨.client (.plain config r), received⟩)
  (hd : Desk e (.linked t) r received) (hundelivered : t.down.undelivered = [])
  (hact : s.world.act (.read 0 1 most) = some w')

include h hslot hselecting hn hd hundelivered hact

/-- Where nothing is left to read the client has found the end, and closes its connection. -/
theorem read_end (harrived : t.down.arrived = []) : Proceeds e s (.linked t) w' := by
  obtain ⟨hsound, hcarried, hseen⟩ := h.place
  have ha := hd.attached_one hslot
  cases hspeaks : t.speaks with
  | true =>
      have hending : (t.near e).ending = none := by simp [Talk.near, hspeaks]
      rw [World.act_read_of_selecting hselecting hcarried.near hending,
        if_pos (by rw [Talk.near, harrived, List.take_nil])] at hact
      simp at hact
  | false =>
      have hending : (t.near e).ending = some .finished := by simp [Talk.near, hspeaks]
      obtain ⟨notices, hreact⟩ : ∃ notices,
          (Machine.client (.plain config r)).react 1 s.world.now (.read []) =
            some (_, notices, _) := Client.react_plain_end ha (hd.pool_of_serving hslot)
      rw [World.act_read_of_finished hselecting hcarried.near harrived hending,
        World.react_of_ended hn hreact rfl] at hact
      obtain rfl := Option.some.inj hact
      let t' : Talk := { t with slot := .ending }
      have hsound' : t'.Sound e := ⟨hsound.socket, hsound.frame, hsound.hears,
        fun _ h => by simp [t', Slot.handler?] at h, fun _ => ⟨hspeaks, harrived, hundelivered⟩,
        hsound.left⟩
      have hnone : ∀ handler, t'.slot.handler? = some handler →
          handler.timer.timeout = e.idle ∧ e.since ≤ handler.timer.lastActivity :=
        fun _ h => by simp [t', Slot.handler?] at h
      refine h.change config (.linked t')
        ⟨rfl, ?_, hd.queued, hd.received, hd.delivering, hd.room, hd.timed_linked rfl rfl hnone⟩
        ⟨hsound', hcarried.close_near hslot harrived,
          hseen.congr rfl (Network.listener?_close ..)⟩ ?_
      · -- the slot stays until it is evicted, but its handler is gone
        rw [Hub.detach, hd.attached_serving hslot]
        rfl
      · simp only [effort, Stage.effort, Slot.effort, hslot, t']
        omega

/-- Some of the bytes that have arrived go to the handler. -/
theorem read_bytes (harrived : t.down.arrived ≠ []) : Proceeds e s (.linked t) w' := by
  obtain ⟨hsound, hcarried, hseen⟩ := h.place
  have ha := hd.attached_one hslot
  rw [World.act_read_of_arrived hselecting hcarried.near harrived] at hact
  split at hact
  · simp at hact
  · next hbytes =>
    replace hbytes : t.down.arrived.take most ≠ [] := hbytes
    dsimp only [Talk.near] at hact
    rw [World.react_of_going hn (Client.react_plain ha hbytes) rfl] at hact
    obtain rfl := Option.some.inj hact
    let handler' := handler.receive s.world.now (t.down.arrived.take most)
    let t' : Talk := { t with down := t.down.read most, slot := .serving handler' }
    have hhandles := hsound.handles handler (by rw [hslot]; rfl)
    have hsound' : t'.Sound e := by
      refine ⟨hsound.socket, hsound.frame, hsound.hears.read hundelivered most, ?_,
        fun h => by simp [t', Slot.handler?] at h, hsound.left⟩
      intro other hother
      obtain rfl := Option.some.inj hother
      exact hhandles.receive _ _
    have hcarried' : t'.Carried e (s.world.network.modifySocket e.socket
        fun s => { s with arrived := s.arrived.drop most }) := by
      refine hcarried.modify_near ?_ ?_
      · simp [Talk.near, t', hslot, Slot.handler?, Exchange.Flow.read]
      · simp [Talk.far, t', hslot, Slot.handler?]
    have hactive : ∀ handler, t'.slot.handler? = some handler →
        handler.timer.timeout = e.idle ∧ e.since ≤ handler.timer.lastActivity := by
      intro other hother
      obtain rfl := Option.some.inj hother
      exact ⟨(hd.active hslot).1, h.clock⟩
    refine h.change config (.linked t')
      ⟨hd.pool_of_serving hslot, hd.attached_setHandler hslot rfl, hd.queued, hd.received,
        hd.delivering, hd.room, hd.timed_linked rfl rfl hactive⟩
      ⟨hsound', hcarried', hseen.congr rfl rfl⟩ ?_
    have hlt := Exchange.Flow.effort_read_lt hundelivered hbytes
    simp only [effort, Stage.effort, Slot.effort, hslot, t']
    omega

end Reading

/-- **The client reads**, or finds the end. -/
theorem read (h : Good e s stage) (hact : s.world.act (.read 0 id most) = some w') :
    Proceeds e s stage w' := by
  obtain ⟨⟨machine, a⟩, hselecting, -⟩ := Option.bind_eq_some_iff.1 hact
  obtain ⟨t, handler, config, r, received, rfl, hslot, rfl, rfl, rfl, hn, hd, hundelivered⟩ :=
    h.of_selecting hselecting
  by_cases harrived : t.down.arrived = []
  · exact h.read_end hslot hselecting hn hd hundelivered hact harrived
  · exact h.read_bytes hslot hselecting hn hd hundelivered hact harrived

/-- The client has nothing more to write. -/
theorem write_eq_none (h : Good e s stage) (id : Nat) : s.world.act (.write 0 id) = none := by
  cases hselecting : s.world.selecting? 0 id with
  | none => simp [World.act, hselecting]
  | some result =>
      obtain ⟨machine, a⟩ := result
      obtain ⟨t, handler, config, r, received, rfl, hslot, rfl, rfl, rfl, -, hd, -⟩ :=
        h.of_selecting hselecting
      exact World.act_write_of_empty hselecting
        (Client.nextPayload_plain_of_nil (hd.pool_of_serving hslot))

/-! ### Messages -/

/-- **The client hands a message over.** -/
theorem dispatch (h : Good e s stage) (hact : s.world.act (.dispatch 0 id) = some w') :
    Proceeds e s stage w' := by
  obtain ⟨config, r, received, hn, hd⟩ := h.node?_zero
  rw [World.act_dispatch_eq hn, Client.dispatch_plain, Option.map_map] at hact
  obtain ⟨_, hdispatch, rfl⟩ := Option.map_eq_some_iff.1 hact
  obtain ⟨a, message, rest, ha, hundelivered, -, -, rfl⟩ := Hub.dispatch_eq_some_iff.1 hdispatch
  obtain ⟨t, handler, rfl, hslot, rfl, rfl⟩ := hd.of_attached ha
  obtain ⟨hsound, hcarried, hseen⟩ := h.place
  have hhandles := hsound.handles handler (by rw [hslot]; rfl)
  have hundelivered : t.down.undelivered = message :: rest :=
    hhandles.undelivered.symm.trans hundelivered
  let t' : Talk := { t with
    down := t.down.dispatch message rest
    slot := .serving { handler with undelivered := rest } }
  have hsound' : t'.Sound e := by
    refine ⟨hsound.socket, hsound.frame, hsound.hears.dispatch hundelivered, ?_,
      fun h => by simp [t', Slot.handler?] at h, hsound.left⟩
    intro other hother
    obtain rfl := Option.some.inj hother
    exact ⟨hhandles.framer, rfl⟩
  have hcarried' : t'.Carried e s.world.network := by
    refine hcarried.congr ?_ ?_
    · simp [Talk.near, t', hslot, Slot.handler?, Exchange.Flow.dispatch]
    · simp [Talk.far, t', hslot, Slot.handler?]
  have htimer := hd.active hslot
  have hactive : ∀ handler, t'.slot.handler? = some handler →
      handler.timer.timeout = e.idle ∧ e.since ≤ handler.timer.lastActivity := by
    intro other hother
    obtain rfl := Option.some.inj hother
    exact htimer
  refine h.change config (.linked t')
    ⟨hd.pool_of_serving hslot, hd.attached_setHandler hslot rfl,
      congrArg (· ++ [message]) hd.queued, hd.received, hd.delivering, hd.room,
      hd.timed_linked rfl rfl hactive⟩
    ⟨hsound', hcarried', hseen.congr rfl rfl⟩ ?_
  have hlt := Exchange.Flow.effort_dispatch_lt hundelivered
  simp only [effort, Stage.effort, Slot.effort, hslot, t']
  omega

/-- **The client's sink takes a message.** -/
theorem deliver (h : Good e s stage) (hact : s.world.act (.deliver 0) = some w') :
    Proceeds e s stage w' := by
  obtain ⟨config, r, received, hn, hd⟩ := h.node?_zero
  cases hqueue : r.hub.queue.queue with
  | nil =>
      simp [World.act_deliver_of_none hn (Client.deliver_plain_of_nil hqueue)] at hact
  | cons message rest =>
      rw [World.act_deliver_of_taken hn (Client.deliver_plain hqueue),
        SinkQueue.deliver_of_taken hqueue rfl] at hact
      obtain rfl := Option.some.inj hact
      -- only a client that is connected has messages
      have hqueued := hqueue.symm.trans hd.queued
      cases stage with
      | waiting => simp [Stage.queued] at hqueued
      | dialing => simp [Stage.queued] at hqueued
      | linked t =>
          have hqueued : t.down.queued = message :: rest := hqueued.symm
          obtain ⟨hsound, hcarried, hseen⟩ := h.place
          let t' : Talk := { t with down := t.down.deliver message rest }
          have hsound' : t'.Sound e := by
            refine ⟨hsound.socket, hsound.frame, hsound.hears.deliver hqueued, ?_, hsound.ended,
              hsound.left⟩
            intro handler hslot
            exact ⟨(hsound.handles handler hslot).framer, (hsound.handles handler hslot).undelivered⟩
          have hreceived : (message :: received).reverse = t.down.taken ++ [message] := by
            rw [List.reverse_cons, hd.received]
            rfl
          refine h.change config (.linked t')
            ⟨hd.pool, hd.attached, rfl, hreceived, hd.delivering, hd.room,
              hd.timed_linked rfl rfl fun _ hslot => hd.active (Slot.eq_serving hslot)⟩
            ⟨hsound', hcarried.congr rfl rfl, hseen.congr rfl rfl⟩ ?_
          have hlt := Exchange.Flow.effort_deliver_lt hqueued
          simp only [effort, Stage.effort, t']
          omega

/-! ### The slot -/

/-- **The slot dials.** -/
theorem dial (h : Good e s stage) (hact : s.world.act (.dial 0 id) = some w') :
    Proceeds e s stage w' := by
  obtain ⟨config, r, received, hn, hd⟩ := h.node?_zero
  rw [World.act_dial_eq hn (show _ = some r from rfl)] at hact
  obtain ⟨r', hdial, rfl⟩ := Option.map_eq_some_iff.1 hact
  obtain ⟨task, htask, hphased⟩ := Option.bind_eq_some_iff.1 hdial
  obtain ⟨rfl, ⟨rfl, -⟩ | ⟨-, hphase⟩ | ⟨t, -, -, hphase⟩ | hphase⟩ := hd.of_task? htask
  · obtain rfl := Option.some.inj ((Client.Round.dial_of_solo hd.pool s.world.now).symm.trans hdial)
    have htimed : Timed e .dialing { r with
        pool := .solo e.destination [] (.dialing e.frame)
        dials := (1, s.world.now + r.connectTimeout) :: r.dials } := by
      refine ⟨hd.timed.idle, fun entry hentry => ⟨rfl, ?_⟩, nofun⟩
      rcases List.mem_cons.1 hentry with rfl | hentry
      · rfl
      · exact (hd.timed.dials entry hentry).2
    refine h.change config .dialing
      ⟨rfl, hd.attached, hd.queued, hd.received, hd.delivering, hd.room, htimed⟩ h.place ?_
    exact Nat.add_lt_add_right (Nat.lt_succ_self _) _
  · simp [hphase] at hphased
  · simp [hphase] at hphased
  · simp [hphase] at hphased

/-- **The dial connects the slot**, and by that the frame is written. -/
theorem settle (h : Good e s stage) (hact : s.world.act (.settle 0 id) = some w') :
    Proceeds e s stage w' := by
  obtain ⟨config, r, received, hn, hd⟩ := h.node?_zero
  rw [World.act_settle_eq hn (show _ = some r from rfl)] at hact
  obtain ⟨result, hsettle, rfl⟩ := Option.map_eq_some_iff.1 hact
  obtain ⟨task, htask, hphased⟩ := Option.bind_eq_some_iff.1 hsettle
  obtain ⟨rfl, ⟨-, hphase⟩ | ⟨rfl, -⟩ | ⟨t, -, -, hphase⟩ | hphase⟩ := hd.of_task? htask
  · simp [hphase] at hphased
  · obtain ⟨hreach, hnumber, hvisits⟩ := h.place
    have hconnected := Client.Round.settle_connected hd.pool hnumber hreach.obstacle hreach.silent
      hreach.reach s.world.now
    obtain rfl := Option.some.inj (hconnected.symm.trans hsettle)
    have hbacklog := hreach.backlog_connected hnumber e.frame
    let t := Talk.opened e (s.world.network.nextAddress e.destination) r.idleTimeout s.world.now
    have htimed : Timed e (.linked t) { r with
        pool := .solo e.destination [] .connected
        hub := r.hub.attach 1 e.socket (.new e.destination r.idleTimeout s.world.now)
        dials := (r.undial 1).dials } := by
      refine ⟨hd.timed.idle, fun entry hentry => ?_, fun a ha => ?_⟩
      · -- the dial was the only one
        obtain ⟨hmem, hne⟩ := List.mem_filter.1 hentry
        exact absurd (hd.timed.dials entry hmem).2 (by simpa using hne)
      · obtain rfl := Option.some.inj ha
        exact ⟨hd.timed.idle, h.clock⟩
    refine h.change config (.linked t) ⟨rfl, ?_, hd.queued, hd.received, hd.delivering, hd.room,
      htimed⟩ ⟨Talk.sound_opened .., Talk.carried_opened hnumber .., .pending hbacklog hvisits rfl⟩ ?_
    · rw [Hub.attach, hd.attached]
      rfl
    · have hdown : t.down.effort = 0 := Exchange.Flow.effort_opened e.destination []
      have hslot : t.slot.effort = 2 := rfl
      have hrest : t.rest = e.frame := rfl
      simp only [effort, Stage.effort, hdown, hslot, hrest]
      omega
  · simp [hphase] at hphased
  · simp [hphase] at hphased

/-- **The slot is evicted**, and nothing is left to be sent. -/
theorem evict (h : Good e s stage) (hact : s.world.act (.evict 0 id) = some w') :
    Proceeds e s stage w' := by
  obtain ⟨config, r, received, hn, hd⟩ := h.node?_zero
  rw [World.act_evict_eq hn (show _ = some r from rfl)] at hact
  obtain ⟨result, hevict, rfl⟩ := Option.map_eq_some_iff.1 hact
  obtain ⟨task, htask, hphased⟩ := Option.bind_eq_some_iff.1 hevict
  obtain ⟨rfl, ⟨-, hphase⟩ | ⟨-, hphase⟩ | ⟨t, rfl, hslot, -⟩ | hphase⟩ := hd.of_task? htask
  · simp [hphase] at hphased
  · simp [hphase] at hphased
  · have hpool : r.pool = .solo e.destination [] .ending := by
      rw [hd.pool, Stage.pool, hslot]
      rfl
    obtain rfl := Option.some.inj ((Client.Round.evict_of_solo hpool).symm.trans hevict)
    obtain ⟨hsound, hcarried, hseen⟩ := h.place
    have hended := hsound.ended (by rw [hslot]; rfl)
    let t' : Talk := { t with slot := .evicted }
    have hsound' : t'.Sound e := ⟨hsound.socket, hsound.frame, hsound.hears,
      fun _ h => by simp [t', Slot.handler?] at h, fun _ => hended, hsound.left⟩
    have hcarried' : t'.Carried e s.world.network := by
      refine hcarried.congr ?_ ?_
      · simp [Talk.near, t', hslot, Slot.handler?]
      · simp [Talk.far, t', hslot, Slot.handler?]
    have hnone : ∀ handler, t'.slot.handler? = some handler →
        handler.timer.timeout = e.idle ∧ e.since ≤ handler.timer.lastActivity :=
      fun _ h => by simp [t', Slot.handler?] at h
    refine h.change config (.linked t') ⟨rfl, ?_, hd.queued, hd.received, hd.delivering, hd.room,
      hd.timed_linked rfl rfl hnone⟩ ⟨hsound', hcarried', hseen.congr rfl rfl⟩ ?_
    · rw [hd.attached, Stage.attached?, hslot]
      rfl
    · simp only [effort, Stage.effort, Slot.effort, hslot, t']
      omega
  · simp [hphase] at hphased

/-! ### Every action -/

/-- A client takes no connections in. -/
theorem act_accept_eq_none (h : Good e s stage) : s.world.act (.accept 0) = none := by
  obtain ⟨config, r, received, hn, -⟩ := h.node?_zero
  simp only [World.act, hn, Option.bind_eq_bind, Option.bind_some]

/-- The client has no earlier rounds. -/
theorem act_drain_eq_none (h : Good e s stage) (earlier : Nat) :
    s.world.act (.drain 0 earlier) = none := by
  obtain ⟨config, r, received, hn, -⟩ := h.node?_zero
  exact World.act_drain_of_none hn (Client.deliver_plain_earlier earlier)

/-- The client is alone. -/
theorem act_eq_none (h : Good e s stage) {action : World.Action} {node : Nat}
    (hnode : action.node? = some node) (hne : node ≠ 0) : s.world.act action = none := by
  obtain ⟨config, r, received, hnodes, -⟩ := h.client
  refine World.act_of_node?_none hnode (List.getElem?_eq_none ?_)
  rw [hnodes, List.length_singleton]
  exact Nat.one_le_iff_ne_zero.2 hne

/-- **Every action of the client keeps an errand in order and takes effort off it.** -/
theorem act (h : Good e s stage) {action : World.Action} (hwork : action.IsWork)
    (hact : s.world.act action = some w') : Proceeds e s stage w' := by
  have hzero : ∀ node, action.node? = some node → node = 0 := by
    intro node hnode
    by_contra hne
    rw [h.act_eq_none hnode hne] at hact
    cases hact
  cases action with
  | accept node =>
      obtain rfl := hzero node rfl
      rw [h.act_accept_eq_none] at hact
      cases hact
  | read node id most =>
      obtain rfl := hzero node rfl
      exact h.read hact
  | dispatch node id =>
      obtain rfl := hzero node rfl
      exact h.dispatch hact
  | write node id =>
      obtain rfl := hzero node rfl
      rw [h.write_eq_none] at hact
      cases hact
  | deliver node =>
      obtain rfl := hzero node rfl
      exact h.deliver hact
  | drain node earlier =>
      obtain rfl := hzero node rfl
      rw [h.act_drain_eq_none] at hact
      cases hact
  | dial node slot =>
      obtain rfl := hzero node rfl
      exact h.dial hact
  | settle node slot =>
      obtain rfl := hzero node rfl
      exact h.settle hact
  | evict node slot =>
      obtain rfl := hzero node rfl
      exact h.evict hact
  | expire node id => exact hwork.elim
  | giveUp node slot => exact hwork.elim
  | pass ms => exact hwork.elim

/-- Time passes. -/
theorem pass (h : Good e s stage) {ms : Nat} (hact : s.world.act (.pass ms) = some w') :
    Good e { s with world := w' } stage := by
  obtain rfl := Option.some.inj hact
  exact ⟨h.listener, Nat.le_add_right_of_le h.clock, h.client, h.place⟩

end Good

end Errand

end Framewire
