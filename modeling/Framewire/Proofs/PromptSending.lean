/-
**A command to which nothing is slow.**

In the prompt schedule everything happens as soon as it can: the client and the destination act, and
the command prints, as long as there is anything to do; only then does time pass, until the wait for
a reply is over.  By then the frame has arrived and every answer was printed, because each of these
moves brings the errand nearer to its end.  If the connection does not count as idle before, the next
thing that happens is that the client is stopped, and after that nothing happens any more.

Main definitions:

* `Sending.Finishes` — where a schedule comes to, if it is followed far enough;
* `Errand.Prompt`, `Errand.left` — no time has passed on an errand, and what is left to do;
* `Errand.Resting` — nothing is left to do, and the command waits.

Main results:

* `Errand.Prompt.act`, `Errand.Prompt.respond` — every move in the prompt schedule leaves less to do;
* `Errand.Prompt.finishes` — **promptly the frame arrives, the answers are printed, and the client is
  stopped**.
-/

import Framewire.Proofs.SendingRuns
import Mathlib.Data.Prod.Lex

set_option autoImplicit false

namespace Framewire

/-! ### Following a schedule -/

namespace Sending

variable {s t : Sending} {move : Move} {moves later : List Move} {schedule : Schedule}

theorem first?_eq_nil_iff : s.first? moves = [] ↔ ∀ move ∈ moves, s.step move = none := by
  simp [first?, Option.toList_eq_nil_iff]

theorem of_first?_eq_cons (h : s.first? moves = move :: later) :
    move ∈ moves ∧ later = [] ∧ ∃ t, s.step move = some t := by
  rw [first?] at h
  cases hfind : moves.find? fun move => (s.step move).isSome with
  | none => simp [hfind] at h
  | some other =>
      rw [hfind] at h
      obtain ⟨rfl, rfl⟩ := List.cons.inj h
      have hpossible : (s.step other).isSome = true := by simpa using List.find?_some hfind
      exact ⟨List.mem_of_find?_eq_some hfind, rfl, Option.isSome_iff_exists.1 hpossible⟩

/-- The prompt schedule first does what can be done at once. -/
theorem prompt_of_immediate (r : Responder) (h : s.first? s.immediate = move :: later) :
    prompt r s = [move] := by
  simp only [prompt, h]

/-- Then the responder has his turn. -/
theorem prompt_of_moves {r : Responder} {x : Errand.Step} {steps : List Errand.Step}
    (h : s.first? s.immediate = []) (hmoves : r.moves s.scene = x :: steps) :
    prompt r s = (x :: steps).map .scene := by
  simp only [prompt, h, hmoves]

/-- Then comes what is overdue. -/
theorem prompt_of_overdue {r : Responder} (h : s.first? s.immediate = [])
    (hmoves : r.moves s.scene = []) (hoverdue : s.first? s.overdue = move :: later) :
    prompt r s = [move] := by
  simp only [prompt, h, hmoves, hoverdue]

end Sending

/-- What is tried is done by a connector. -/
theorem World.exists_node? {w : World} {action : Action} (h : action ∈ w.actions) :
    ∃ node, action.node? = some node := by
  obtain ⟨_, hmem, h⟩ := List.mem_flatten.1 h
  obtain ⟨⟨n, node⟩, -, rfl⟩ := List.mem_map.1 hmem
  cases action with
  | pass ms => simp [nodeActions] at h
  | _ => exact ⟨_, rfl⟩

/-- What is tried is work, unless it is that something takes too long. -/
theorem World.isWork_of_mem_actions {w : World} {action : Action} (h : action ∈ w.actions)
    (hlate : action.isLate = false) : action.IsWork := by
  cases action with
  | pass ms =>
      obtain ⟨node, hnode⟩ := exists_node? h
      cases hnode
  | expire node id => cases hlate
  | giveUp node slot => cases hlate
  | _ => trivial

/-- Work takes no time. -/
theorem World.now_act {w w' : World} {action : Action} (hwork : action.IsWork)
    (hact : w.act action = some w') : w'.now = w.now := by
  obtain ⟨ms, rfl, -⟩ | ⟨_, -, n, network, machine, received, notices, -, -, -, rfl⟩ := act_spec hact
  · exact hwork.elim
  · rfl

namespace Errand

variable {e : Errand} {s t : Sending} {stage : Stage} {move : Sending.Move}
  {later : List Sending.Move} {scene scene' : Scene} {x : Step} {steps : List Step} {r : Responder}
  {number count : Nat} {chunk : Bytes}

/-! ### What the destination does takes no time -/

/-- A step of the destination changes the network and its connections only. -/
theorem frame_step (hstep : scene.step x = some scene') (hx : ∀ action, x ≠ .act action) :
    ∃ network visits, scene' = { scene with world := { scene.world with network }, visits } := by
  cases x with
  | accept =>
      obtain ⟨_, -, hstep⟩ := Option.bind_eq_some_iff.1 hstep
      exact ⟨_, _, (Option.some.inj hstep).symm⟩
  | receive number count =>
      obtain ⟨v, -, hstep⟩ := Option.bind_eq_some_iff.1 hstep
      split at hstep
      · exact ⟨_, _, (Option.some.inj hstep).symm⟩
      · simp at hstep
  | reply number chunk =>
      obtain ⟨v, -, hstep⟩ := Option.bind_eq_some_iff.1 hstep
      split at hstep
      · exact ⟨_, _, (Option.some.inj hstep).symm⟩
      · simp at hstep
  | finish number =>
      obtain ⟨v, -, hstep⟩ := Option.bind_eq_some_iff.1 hstep
      exact ⟨_, _, (Option.some.inj hstep).symm⟩
  | leave number =>
      obtain ⟨v, -, hstep⟩ := Option.bind_eq_some_iff.1 hstep
      exact ⟨_, _, (Option.some.inj hstep).symm⟩
  | act action => exact absurd rfl (hx action)

theorem now_run (hsteps : ∀ x ∈ steps, ∀ action, x ≠ Step.act action) :
    (scene.run steps).world.now = scene.world.now := by
  induction steps generalizing scene with
  | nil => rfl
  | cons x steps ih =>
      rw [List.forall_mem_cons] at hsteps
      rw [Scene.run_cons, ih hsteps.2, Scene.after]
      cases hstep : scene.step x with
      | none => rfl
      | some scene' =>
          obtain ⟨network, visits, rfl⟩ := frame_step hstep hsteps.1
          rfl

/-- Nothing but reading adds to what was read. -/
theorem got_set {v u : Visit} (hv : scene.visits[number]? = some v) (hgot : u.got = v.got)
    (network : Network) : (scene.set number u network).got = scene.got := by
  have hmap : (scene.visits.set number u).map (·.got) = scene.visits.map (·.got) := by
    refine List.ext_getElem? fun i => ?_
    rw [List.getElem?_map, List.getElem?_set, List.getElem?_map]
    split
    · next hi =>
      rw [← hi, hv, if_pos (List.getElem?_eq_some_iff.1 hv).1, Option.map_some, Option.map_some, hgot]
    · rfl
  rw [Scene.got, Scene.got, List.flatMap_def, List.flatMap_def, Scene.set, hmap]

theorem got_after_reply (scene : Scene) (number : Nat) (chunk : Bytes) :
    (scene.after (.reply number chunk)).got = scene.got := by
  rw [Scene.after]
  cases hstep : scene.step (.reply number chunk) with
  | none => rfl
  | some scene' =>
      obtain ⟨v, hv, hstep⟩ := Option.bind_eq_some_iff.1 hstep
      split at hstep
      · obtain rfl := Option.some.inj hstep
        exact got_set (u := { v with said := v.said ++ chunk }) hv rfl _
      · simp at hstep

theorem got_after_leave (scene : Scene) (number : Nat) :
    (scene.after (.leave number)).got = scene.got := by
  rw [Scene.after]
  cases hstep : scene.step (.leave number) with
  | none => rfl
  | some scene' =>
      obtain ⟨v, hv, hstep⟩ := Option.bind_eq_some_iff.1 hstep
      obtain rfl := Option.some.inj hstep
      exact got_set hv rfl _

/-- When the destination reads everything that has arrived, it has read all of the frame. -/
theorem Good.receive_all (h : Good e scene stage) {v : Visit} (hv : scene.visits[number]? = some v)
    (harrived : scene.arrived v ≠ []) :
    ∃ scene' stage', scene.step (.receive number (scene.arrived v).length) = some scene' ∧
      Good e scene' stage' ∧ scene'.got = e.frame ∧ scene.got.length < e.frame.length := by
  obtain ⟨talk, rfl, rfl, rfl, hvisits, -⟩ := h.of_visit hv
  obtain ⟨hsound, hcarried, -⟩ := h.place
  have heq : scene.arrived talk.visit = talk.rest := by
    rw [Scene.arrived_of_socket? (hsound.socket ▸ hcarried.far)]
    rfl
  have hreceive := (Scene.step_receive hv (scene.arrived talk.visit).length).trans
    (if_neg (by rwa [List.take_length]))
  obtain ⟨stage', hgood, -⟩ := h.receive hreceive
  refine ⟨_, stage', hreceive, hgood, ?_, ?_⟩
  · rw [Scene.got, Scene.set, hvisits, List.take_length, heq, ← hsound.frame]
    simp
  · have hpos := List.length_pos_iff.2 harrived
    rw [h.got_said.1, ← hsound.frame, List.length_append, ← heq]
    omega

/-- Once the frame has been read, the destination may leave. -/
theorem Good.calm_leave (h : Good e scene stage) (hgot : scene.got = e.frame) (number : Nat) :
    scene.Calm (.leave number) := by
  intro v hv socket hsocket
  obtain ⟨t, rfl, -, rfl, -, -⟩ := h.of_visit hv
  obtain ⟨hsound, hcarried, -⟩ := h.place
  have hrest : t.rest = [] := by
    have hframe := hsound.frame
    rw [← h.got_said.1, hgot] at hframe
    exact List.append_right_eq_self.1 hframe
  rw [hsound.socket, hcarried.far] at hsocket
  obtain rfl := Option.some.inj hsocket
  exact hrest

/-! ### Before any time has passed -/

/-- A command waits on an errand, and no time has passed since it began. -/
structure Prompt (e : Errand) (s : Sending) (stage : Stage) : Prop where
  awaits : Awaits e s stage
  now : s.scene.world.now = e.since
  deadline : s.deadline = e.since + s.wait

/-- What is left to do: bytes to be read at the destination, steps to be done, and replies to be
printed. -/
def left (e : Errand) (s : Sending) (stage : Stage) : Nat ×ₗ Nat ×ₗ Nat :=
  toLex (e.frame.length - s.scene.got.length, toLex (effort e stage s.scene.visits,
    (s.scene.world.messages 0).length - s.printed.length))

theorem left_lt_of_got {stage' : Stage} (hlt : s.scene.got.length < t.scene.got.length)
    (hle : t.scene.got.length ≤ e.frame.length) : left e t stage' < left e s stage := by
  rw [left, left, Prod.Lex.toLex_lt_toLex]
  exact .inl (by omega)

theorem left_lt_of_effort {stage' : Stage} (hgot : t.scene.got = s.scene.got)
    (hlt : effort e stage' t.scene.visits < effort e stage s.scene.visits) :
    left e t stage' < left e s stage := by
  rw [left, left, Prod.Lex.toLex_lt_toLex, hgot, Prod.Lex.toLex_lt_toLex]
  exact .inr ⟨rfl, .inl hlt⟩

namespace Prompt

/-- A reply is printed. -/
theorem print (h : Prompt e s stage) (hstep : s.step .print = some t) :
    Prompt e t stage ∧ left e t stage < left e s stage := by
  obtain ⟨h', hscene, hdeadline, hwait, hlength, hlt⟩ := h.awaits.print hstep
  refine ⟨⟨h', by rw [hscene, h.now], by rw [hdeadline, hwait, h.now]⟩, ?_⟩
  rw [left, left, Prod.Lex.toLex_lt_toLex, hscene, Prod.Lex.toLex_lt_toLex]
  exact .inr ⟨rfl, .inr ⟨rfl, by omega⟩⟩

/-- The client does something. -/
theorem act (h : Prompt e s stage) {action : World.Action} (hwork : action.IsWork)
    (hstep : s.step (.scene (.act action)) = some t) :
    ∃ stage', Prompt e t stage' ∧ left e t stage' < left e s stage := by
  obtain ⟨scene, hscene, rfl⟩ := Option.map_eq_some_iff.1 hstep
  obtain ⟨stage', h', heffort⟩ := h.awaits.scene_step
    (Scene.calm_of_isWork (x := .act action) hwork) hscene
  obtain ⟨world, hact, rfl⟩ := Option.map_eq_some_iff.1 hscene
  exact ⟨stage', ⟨h', (World.now_act hwork hact).trans h.now, h.deadline⟩,
    left_lt_of_effort rfl (heffort hwork)⟩

/-- **What can be done at once leaves less to do.** -/
theorem immediate (h : Prompt e s stage) (hfirst : s.first? s.immediate = move :: later) :
    s.Undisturbed [move] ∧ ∃ stage', Prompt e (s.run [move]) stage' ∧
      left e (s.run [move]) stage' < left e s stage := by
  obtain ⟨hmem, -, t, hstep⟩ := Sending.of_first?_eq_cons hfirst
  rw [Sending.run_cons, Sending.run_nil, Sending.after_of_step hstep]
  rcases List.mem_cons.1 hmem with rfl | hmem
  · exact ⟨⟨trivial, trivial⟩, stage, h.print hstep⟩
  · obtain ⟨action, haction, rfl⟩ := List.mem_map.1 hmem
    obtain ⟨hmem, hlate⟩ := List.mem_filter.1 haction
    have hwork := World.isWork_of_mem_actions hmem (by simpa using hlate)
    exact ⟨⟨Scene.calm_of_isWork (x := .act action) hwork, trivial⟩, h.act hwork hstep⟩

/-- The destination does something. -/
theorem destination (h : Prompt e s stage) (hsteps : ∀ x ∈ steps, ∀ action, x ≠ Step.act action)
    (hundisturbed : s.scene.Undisturbed steps) :
    ∃ stage', Prompt e { s with scene := s.scene.run steps } stage' := by
  have hrun := s.run_scene steps
  have hawaits : ∃ stage', Awaits e (s.run (steps.map .scene)) stage' :=
    awaits_run h.awaits ((s.undisturbed_scene steps).2 hundisturbed)
      (by rw [hrun]; exact h.awaits.waiting)
  rw [hrun] at hawaits
  obtain ⟨stage', h'⟩ := hawaits
  exact ⟨stage', h', (now_run hsteps).trans h.now, h.deadline⟩

/-- A responder reads everything that has arrived on the connection, answers, and may leave. -/
theorem answer (h : Prompt e s stage) {v : Visit} (hv : s.scene.visits[number]? = some v)
    (harrived : s.scene.arrived v ≠ []) (chunk : Bytes) (closes : Bool) :
    let steps := [.receive number (s.scene.arrived v).length, .reply number chunk]
      ++ if closes then [.leave number] else []
    s.scene.Undisturbed steps ∧ ∃ stage', Prompt e { s with scene := s.scene.run steps } stage' ∧
      left e { s with scene := s.scene.run steps } stage' < left e s stage := by
  intro steps
  obtain ⟨scene₁, stage₁, hreceive, hgood₁, hgot₁, hlt⟩ := h.awaits.good.receive_all hv harrived
  have hafter := Scene.after_of_step hreceive
  -- the answer adds nothing to what was read, and so the responder may leave
  have hreply : scene₁.Undisturbed [.reply number chunk] := ⟨trivial, trivial⟩
  obtain ⟨stage₂, hgood₂⟩ := good_run hgood₁ hreply
  have hgot₂ := (got_after_reply scene₁ number chunk).trans hgot₁
  have hsteps : ∀ x ∈ steps, ∀ action, x ≠ Step.act action := by
    intro x hx action heq
    subst heq
    cases closes <;> simp [steps] at hx
  have hundisturbed : s.scene.Undisturbed steps := by
    refine ⟨trivial, ?_⟩
    rw [hafter]
    refine ⟨trivial, ?_⟩
    cases closes with
    | false => exact trivial
    | true => exact ⟨hgood₂.calm_leave hgot₂ number, trivial⟩
  have hgot : (s.scene.run steps).got = e.frame := by
    cases closes with
    | false =>
        rw [show s.scene.run steps = scene₁.after (.reply number chunk) by
          simp [steps, Scene.run_cons, hafter]]
        exact hgot₂
    | true =>
        rw [show s.scene.run steps = (scene₁.after (.reply number chunk)).after (.leave number) by
          simp [steps, Scene.run_cons, hafter]]
        exact (got_after_leave _ number).trans hgot₂
  obtain ⟨stage', h'⟩ := h.destination hsteps hundisturbed
  refine ⟨hundisturbed, stage', h', left_lt_of_got ?_ (congrArg List.length hgot).le⟩
  rw [hgot]
  exact hlt

/-- **What a responder does leaves less to do.** -/
theorem respond (h : Prompt e s stage) (hmoves : r.moves s.scene = x :: steps) :
    s.scene.Undisturbed (x :: steps) ∧
      ∃ stage', Prompt e { s with scene := s.scene.run (x :: steps) } stage' ∧
        left e { s with scene := s.scene.run (x :: steps) } stage' < left e s stage := by
  rw [Responder.moves] at hmoves
  split at hmoves
  · next haccept =>
    obtain ⟨rfl, rfl⟩ := List.cons.inj hmoves
    obtain ⟨⟨socket, network⟩, haccept⟩ := Option.isSome_iff_exists.1 haccept
    have hstep : s.scene.step .accept = some { s.scene with
        world := { s.scene.world with network }
        visits := s.scene.visits ++ [{ socket }] } := by
      rw [Scene.step, haccept]
      rfl
    obtain ⟨stage', h', heffort⟩ := h.awaits.scene_step (x := .accept) trivial hstep
    rw [Scene.run_cons, Scene.run_nil, Scene.after_of_step hstep]
    refine ⟨⟨trivial, trivial⟩, stage', ⟨h', h.now, h.deadline⟩,
      left_lt_of_effort ?_ (heffort trivial)⟩
    simp [Scene.got]
  · split at hmoves
    · cases hmoves
    · next number hfind =>
      obtain ⟨hlt, harrived, -⟩ := List.findIdx?_eq_some_iff_getElem.1 hfind
      have hv := List.getElem?_eq_getElem hlt
      have hanswer := h.answer hv (by simpa using harrived)
        (r.answerTo s.scene (s.scene.arrived s.scene.visits[number])) r.closes
      rw [← hmoves]
      simpa only [hv, Option.map_some, Option.getD_some] using hanswer

end Prompt

/-! ### Where nothing is left to do -/

/-- Nothing is left to do, and the command waits. -/
structure Resting (e : Errand) (s : Sending) (stage : Stage) : Prop where
  awaits : Awaits e s stage
  rest : s.scene.AtRest
  done : s.reply? = none
  now : s.scene.world.now ≤ s.deadline
  deadline : s.deadline = e.since + s.wait

/-- Where nothing can be done at once, everything is at rest. -/
theorem Prompt.resting (h : Prompt e s stage) (hfirst : s.first? s.immediate = [])
    (hmoves : r.moves s.scene = []) : Resting e s stage := by
  rw [Sending.first?_eq_nil_iff, Sending.immediate, List.forall_mem_cons] at hfirst
  obtain ⟨hprint, hacts⟩ := hfirst
  have hquiet : s.scene.world.Quiet := by
    refine World.quiet_of_actions rfl rfl fun action hmem hwork => ?_
    have hlate : action.isLate = false := by
      cases action <;> first | rfl | exact hwork.elim
    have hnone := hacts _ (List.mem_map.2 ⟨action, List.mem_filter.2 ⟨hmem, by simp [hlate]⟩, rfl⟩)
    exact Scene.step_act_eq_none.1 (Option.map_eq_none_iff.1 hnone)
  rw [Responder.moves] at hmoves
  split at hmoves
  · cases hmoves
  · next haccept =>
    split at hmoves
    · next hfind =>
      have hread : ∀ v ∈ s.scene.visits, s.scene.arrived v = [] := by
        simpa using List.findIdx?_eq_none_iff.1 hfind
      rw [Sending.step, h.awaits.waiting] at hprint
      exact ⟨h.awaits, Scene.atRest_iff.2 ⟨by simpa using haccept, hread, hquiet⟩,
        Option.map_eq_none_iff.1 hprint, by rw [h.now, h.deadline]; exact Nat.le_add_right ..,
        h.deadline⟩
    · cases hmoves

/-- A responder has nothing to do where no connection waits and everything was read. -/
theorem moves_eq_nil (haccept : scene.world.network.accept scene.listener = none)
    (hread : ∀ v ∈ scene.visits, scene.arrived v = []) : r.moves scene = [] := by
  have hfind : scene.visits.findIdx? (fun v => scene.arrived v ≠ []) = none := by
    rw [List.findIdx?_eq_none_iff]
    simpa using hread
  rw [Responder.moves, haccept, hfind]
  rfl

theorem moves_of_atRest (hrest : scene.AtRest) : r.moves scene = [] :=
  moves_eq_nil (Scene.atRest_iff.1 hrest).1 (Scene.atRest_iff.1 hrest).2.1

namespace Resting

/-- Nothing can be done at once. -/
theorem immediate (h : Resting e s stage) : s.first? s.immediate = [] := by
  rw [Sending.first?_eq_nil_iff, Sending.immediate, List.forall_mem_cons]
  constructor
  · rw [Sending.step, h.done, Option.map_none, ite_self]
  · intro move hmem
    obtain ⟨action, haction, rfl⟩ := List.mem_map.1 hmem
    obtain ⟨hmem, hlate⟩ := List.mem_filter.1 haction
    have hwork := World.isWork_of_mem_actions hmem (by simpa using hlate)
    rw [Sending.step, h.rest (.act action) hwork, Option.map_none]

/-- Time passes, and nothing is left to do afterwards. -/
theorem pass (h : Resting e s stage) {ms : Nat} (hms : s.scene.world.now + ms ≤ s.deadline) :
    Resting e (s.after (.scene (.act (.pass ms)))) stage := by
  have hpass : s.scene.step (.act (.pass ms)) =
      some { s.scene with world := { s.scene.world with now := s.scene.world.now + ms } } := rfl
  rw [Sending.after_scene, Scene.after_of_step hpass]
  obtain ⟨haccept, hread, hquiet⟩ := Scene.atRest_iff.1 h.rest
  refine ⟨⟨h.awaits.client, h.awaits.waiting, h.awaits.good.pass rfl, h.awaits.printed⟩,
    Scene.atRest_iff.2 ⟨haccept, hread, ?_⟩, h.done, hms, h.deadline⟩
  exact World.quiet_of_actions (w := s.scene.world) rfl rfl fun action _ hwork => hquiet action hwork

/-- The wait goes on: some time passes. -/
theorem pause (h : Resting e s stage) (hearly : s.scene.world.now < s.deadline) :
    ∃ ms, s.pause = [.scene (.act (.pass ms))] ∧ 0 < ms ∧ s.scene.world.now + ms ≤ s.deadline := by
  have htime : s.scene.world.now < (s.scene.world.nextTimer s.deadline).getD s.deadline ∧
      (s.scene.world.nextTimer s.deadline).getD s.deadline ≤ s.deadline := by
    cases htimer : s.scene.world.nextTimer s.deadline with
    | none => exact ⟨hearly, Nat.le_refl _⟩
    | some time =>
        have hmem := List.min?_mem htimer
        rw [List.mem_filter, decide_eq_true_iff] at hmem
        exact hmem.2
  refine ⟨(s.scene.world.nextTimer s.deadline).getD s.deadline - s.scene.world.now, ?_, ?_, ?_⟩
  · rw [Sending.pause, h.awaits.waiting, if_neg]
    simpa using hearly
  · omega
  · omega

/-- The wait is over: the client is stopped. -/
theorem stop (h : Resting e s stage) (hover : s.deadline ≤ s.scene.world.now) (r : Responder) :
    s.step .stop = some (s.halt s.scene.world) ∧ Sending.prompt r s = [.stop] := by
  have hstep := Sending.step_stop (Sending.isOver_iff.2 ⟨h.awaits.waiting, h.done, hover⟩)
  have hfirst : s.first? s.overdue = [.stop] := by
    rw [Sending.first?, Sending.overdue, List.find?_cons_of_pos (by rw [hstep]; rfl)]
    rfl
  exact ⟨hstep, Sending.prompt_of_overdue h.immediate (moves_of_atRest h.rest) hfirst⟩

end Resting

/-- **A prompt command has something to do at once, and then less is left to do**, or it rests. -/
theorem Prompt.next (h : Prompt e s stage) (r : Responder) :
    Resting e s stage ∨ ∃ move moves, Sending.prompt r s = move :: moves ∧
      s.Undisturbed (move :: moves) ∧ ∃ stage', Prompt e (s.run (move :: moves)) stage' ∧
        left e (s.run (move :: moves)) stage' < left e s stage := by
  cases hfirst : s.first? s.immediate with
  | cons move later =>
      exact .inr ⟨move, [], Sending.prompt_of_immediate r hfirst, h.immediate hfirst⟩
  | nil =>
      cases hmoves : r.moves s.scene with
      | cons x steps =>
          obtain ⟨hcalm, hless⟩ := h.respond hmoves
          refine .inr ⟨.scene x, steps.map .scene, Sending.prompt_of_moves hfirst hmoves,
            (s.undisturbed_scene (x :: steps)).2 hcalm, ?_⟩
          rw [← List.map_cons, s.run_scene]
          exact hless
      | nil => exact .inl (h.resting hfirst hmoves)

end Errand

end Framewire
