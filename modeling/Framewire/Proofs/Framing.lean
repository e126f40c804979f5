/-
**The frames of a stream.**

A stream is a sequence of whole frames and then bytes with no frame complete at their front.
Because frames are prefix-free, a stream can be read in this way in only one manner; so whatever
hands out whole frames, keeps the other bytes in order, and stops only when no frame is complete,
hands out *the* frames of the stream.  A framer does that, however it is fed.

Main definitions:

* `Framing` — the frames of a stream and the bytes left over;
* `Framer.Yields` — a framer is fed some bytes and hands out some messages, and no byte is lost.

Main results:

* `Framing.unique` — **a stream has one framing**;
* `Framing.iff_not_prefix` — the bytes left over are those that no whole frame begins;
* `Framer.yields_next`, `Framer.drain_spec`, `Framer.yields_decode` — what a framer hands out are
  whole frames, and no byte is lost;
* `Framer.unfinished_decode` — after a chunk is decoded no complete frame is left;
* `Framer.Yields.framing`, `Framer.decode_eq_iff` — a framer finds the framing of what it was fed.
-/

import Framewire.Proofs.Recognition

set_option autoImplicit false

namespace Framewire

open Framewire.Frame

/-! ### Framings -/

/-- The whole frames that a stream consists of, in order, and the bytes left over. -/
structure Framing (stream : Bytes) (frames : List Bytes) (rest : Bytes) : Prop where
  whole : ∀ frame ∈ frames, Whole frame
  unfinished : Unfinished rest
  eq : stream = frames.flatten ++ rest

namespace Framing

variable {stream rest : Bytes} {frames : List Bytes}

theorem nil_iff : Framing stream [] rest ↔ rest = stream ∧ Unfinished stream := by
  constructor
  · rintro ⟨-, unfinished, heq⟩
    rw [List.flatten_nil, List.nil_append] at heq
    exact ⟨heq.symm, heq ▸ unfinished⟩
  · rintro ⟨rfl, unfinished⟩
    exact ⟨by simp, unfinished, rfl⟩

theorem cons_iff {frame : Bytes} :
    Framing stream (frame :: frames) rest ↔
      Whole frame ∧ ∃ tail, stream = frame ++ tail ∧ Framing tail frames rest := by
  constructor
  · rintro ⟨whole, unfinished, heq⟩
    rw [List.flatten_cons, List.append_assoc] at heq
    rw [List.forall_mem_cons] at whole
    exact ⟨whole.1, _, heq, whole.2, unfinished, rfl⟩
  · rintro ⟨hframe, tail, rfl, h⟩
    refine ⟨List.forall_mem_cons.2 ⟨hframe, h.whole⟩, h.unfinished, ?_⟩
    rw [h.eq, List.flatten_cons, List.append_assoc]

theorem eq_nil_of_unfinished (h : Framing stream frames rest) (hs : Unfinished stream) :
    frames = [] := by
  cases frames with
  | nil => rfl
  | cons frame frames =>
      obtain ⟨hframe, tail, rfl, -⟩ := cons_iff.1 h
      exact absurd (hframe.check_append tail) (unfinished_iff.1 hs _)

/-- **A stream has one framing.** -/
theorem unique (h : Framing stream frames rest) {others : List Bytes} {rest' : Bytes}
    (h' : Framing stream others rest') : frames = others ∧ rest = rest' := by
  induction frames generalizing stream others with
  | nil =>
      obtain ⟨rfl, unfinished⟩ := nil_iff.1 h
      obtain rfl := h'.eq_nil_of_unfinished unfinished
      exact ⟨rfl, (nil_iff.1 h').1.symm⟩
  | cons frame frames ih =>
      obtain ⟨hframe, tail, rfl, htail⟩ := cons_iff.1 h
      cases others with
      | nil => exact absurd (h.eq_nil_of_unfinished (nil_iff.1 h').2) (by simp)
      | cons other others =>
          -- both streams begin with a whole frame, and frames are prefix-free
          obtain ⟨hother, tail', heq, htail'⟩ := cons_iff.1 h'
          obtain ⟨rfl, rfl⟩ := hframe.eq_of_append_eq hother heq
          obtain ⟨rfl, rfl⟩ := ih htail htail'
          exact ⟨rfl, rfl⟩

/-- The bytes left over are those that no whole frame begins. -/
theorem iff_not_prefix :
    Framing stream frames rest ↔ stream = frames.flatten ++ rest ∧
      (∀ frame ∈ frames, Whole frame) ∧ ∀ frame, frame <+: rest → ¬Whole frame := by
  rw [← unfinished_iff_not_prefix]
  exact ⟨fun h => ⟨h.eq, h.whole, h.unfinished⟩, fun ⟨heq, hframes, hrest⟩ => ⟨hframes, hrest, heq⟩⟩

end Framing

/-! ### What a framer hands out -/

namespace Framer

/-- A framer is fed some bytes and hands out some messages: each is a whole frame from the other
end, and together with the bytes that wait they are, in order, the bytes that were there before
and the ones that were fed. -/
structure Yields (f : Framer) (fed : Bytes) (messages : List Message) (g : Framer) : Prop where
  remote : g.remote = f.remote
  whole : ∀ m ∈ messages, Whole m.payload ∧ m.remote = f.remote
  eq : f.buffered ++ fed = (messages.map Message.payload).flatten ++ g.buffered

variable {f g h : Framer} {fed more : Bytes} {messages later : List Message}

namespace Yields

theorem refl (f : Framer) : Yields f [] [] f where
  remote := rfl
  whole := by simp
  eq := by simp

theorem trans (first : Yields f fed messages g) (second : Yields g more later h) :
    Yields f (fed ++ more) (messages ++ later) h where
  remote := second.remote.trans first.remote
  whole m hm := by
    rcases List.mem_append.1 hm with hm | hm
    · exact first.whole m hm
    · rw [← first.remote]
      exact second.whole m hm
  eq := by
    rw [← List.append_assoc, first.eq, List.append_assoc, second.eq, List.map_append,
      List.flatten_append, List.append_assoc]

/-- A framer that stops only when no frame is complete finds the framing of what it was fed. -/
theorem framing (y : Yields f fed messages g) (unfinished : Unfinished g.buffered) :
    Framing (f.buffered ++ fed) (messages.map Message.payload) g.buffered where
  whole frame hframe := by
    obtain ⟨m, hm, rfl⟩ := List.mem_map.1 hframe
    exact (y.whole m hm).1
  unfinished := unfinished
  eq := y.eq

theorem messages_eq (y : Yields f fed messages g) :
    messages = (messages.map Message.payload).map (Message.mk · f.remote) := by
  rw [List.map_map]
  refine (List.map_id messages).symm.trans (List.map_congr_left fun m hm => ?_)
  rw [Function.comp_apply, ← (y.whole m hm).2]
  rfl

/-- Two ways to feed a framer the same bytes come to the same, if neither leaves a complete
frame. -/
theorem unique (y : Yields f fed messages g) (y' : Yields f fed later h)
    (unfinished : Unfinished g.buffered) (unfinished' : Unfinished h.buffered) :
    messages = later ∧ g.buffered = h.buffered := by
  obtain ⟨hframes, hrest⟩ := (y.framing unfinished).unique (y'.framing unfinished')
  refine ⟨?_, hrest⟩
  rw [y.messages_eq, y'.messages_eq, hframes]

end Yields

theorem yields_extend (f : Framer) (chunk : Bytes) : Yields f chunk [] (f.extend chunk) where
  remote := rfl
  whole := by simp
  eq := by simp

/-- The next message is the frame at the front, and the other bytes stay. -/
theorem next_of_check {length : Nat} (h : check f.buffered = .ok length) :
    (f.next).1 = some ⟨f.buffered.take length, f.remote⟩ ∧
      (f.next).2.buffered = f.buffered.drop length ∧ (f.next).2.remote = f.remote := by
  have hlength : f.frameLength? = some length := by
    rw [frameLength?_eq, completeLength?, lengthWithin?_eq_some_iff, ← check_eq_ok_iff, h]
  rw [next, hlength]
  exact ⟨rfl, Buffer.toList_drop f.buffer length, rfl⟩

/-- Without a complete frame there is no message, and nothing changes. -/
theorem next_of_unfinished (h : Unfinished f.buffered) : f.next = (none, f) := by
  have hlength : f.frameLength? = none := by
    rw [frameLength?_eq, Option.eq_none_iff_forall_ne_some]
    intro n hn
    refine unfinished_iff.1 h n (check_eq_ok_iff.2 ?_)
    rwa [completeLength?, lengthWithin?_eq_some_iff] at hn
  rw [next, hlength]

theorem next_eq_none_iff : (f.next).1 = none ↔ Unfinished f.buffered := by
  constructor
  · intro h
    rcases check_cases f.buffered with ⟨length, hlength⟩ | unfinished
    · rw [(next_of_check hlength).1] at h
      exact absurd h (by simp)
    · exact unfinished
  · intro h
    rw [next_of_unfinished h]

theorem yields_next (f : Framer) : Yields f [] (f.next).1.toList (f.next).2 := by
  rcases check_cases f.buffered with ⟨length, hlength⟩ | unfinished
  · obtain ⟨hmessage, hbuffered, hremote⟩ := next_of_check hlength
    rw [hmessage]
    refine ⟨hremote, ?_, ?_⟩
    · simp only [Option.toList_some, List.mem_singleton, forall_eq]
      exact ⟨whole_take hlength, trivial⟩
    · rw [hbuffered]
      simp
  · rw [next_of_unfinished unfinished]
    exact Yields.refl f

/-! ### Draining and decoding -/

/-- Draining adds to the messages already found whole frames in order, without losing a byte, and
stops only when no frame is complete. -/
theorem drainOnto_spec (taken : List Message) (f : Framer) :
    ∃ messages, (drainOnto taken f).1 = taken.reverse ++ messages ∧
      Yields f [] messages (drainOnto taken f).2 ∧ Unfinished (drainOnto taken f).2.buffered := by
  fun_induction drainOnto taken f with
  | case1 taken f length hlength ih =>
      -- one message leaves, the rest is drained by the recursive call
      obtain ⟨messages, hmessages, hyields, unfinished⟩ := ih
      have hnext := f.yields_next
      simp only [next, hlength, Option.toList_some] at hnext
      refine ⟨_, ?_, hnext.trans hyields, unfinished⟩
      rw [hmessages, List.reverse_cons, List.append_assoc]
  | case2 taken f hlength =>
      refine ⟨[], (List.append_nil _).symm, Yields.refl f, ?_⟩
      rw [← next_eq_none_iff, next, hlength]

theorem drain_spec (f : Framer) :
    Yields f [] f.drain.1 f.drain.2 ∧ Unfinished f.drain.2.buffered := by
  obtain ⟨messages, hmessages, hyields, unfinished⟩ := drainOnto_spec [] f
  rw [List.reverse_nil, List.nil_append] at hmessages
  rw [drain, hmessages]
  exact ⟨hyields, unfinished⟩

/-- What decoding a chunk hands out are whole frames, and no byte is lost. -/
theorem yields_decode (f : Framer) (chunk : Bytes) :
    Yields f chunk (f.decode chunk).1 (f.decode chunk).2 := by
  have := (f.yields_extend chunk).trans (f.extend chunk).drain_spec.1
  rwa [List.append_nil, List.nil_append] at this

/-- After a chunk is decoded no complete frame is left. -/
theorem unfinished_decode (f : Framer) (chunk : Bytes) :
    Unfinished (f.decode chunk).2.buffered :=
  (f.extend chunk).drain_spec.2

/-- Decoding a chunk finds the framing of the bytes that wait and the chunk. -/
theorem decode_framing (f : Framer) (chunk : Bytes) :
    Framing (f.buffered ++ chunk) ((f.decode chunk).1.map Message.payload)
      (f.decode chunk).2.buffered :=
  (f.yields_decode chunk).framing (f.unfinished_decode chunk)

/-- **Decoding a chunk is framing**: what comes out are the frames of the bytes that wait and the
chunk, and what stays are the bytes left over. -/
theorem decode_eq_iff {chunk rest : Bytes} {frames : List Bytes} :
    (f.decode chunk).1 = frames.map (Message.mk · f.remote) ∧ (f.decode chunk).2.buffered = rest ↔
      Framing (f.buffered ++ chunk) frames rest := by
  constructor
  · rintro ⟨hmessages, rfl⟩
    have h := f.decode_framing chunk
    rw [hmessages, List.map_map] at h
    rwa [show Message.payload ∘ (Message.mk · f.remote) = id from rfl, List.map_id] at h
  · intro h
    obtain ⟨rfl, rfl⟩ := h.unique (f.decode_framing chunk)
    exact ⟨(f.yields_decode chunk).messages_eq, rfl⟩

end Framer

end Framewire
