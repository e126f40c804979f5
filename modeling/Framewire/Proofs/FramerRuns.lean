/-
**Runs of a framer.**

The owner of a framer adds bytes, takes messages one by one or all at once, and cuts bytes off the
end of the buffer, in any order.  A history records what came out, and beside it the *stream*: the
bytes that were added, less the ones that were cut off.  Whatever the calls, the messages that came
out and the bytes that wait are the stream, in order and without loss; and as a stream has only one
framing, the calls by which its bytes came make no difference to the messages.

Main definitions:

* `Framer.Call`, `Framer.Call.chunk` — what can be done with a framer, and the bytes that it adds;
* `Framer.History`, `Framer.History.step`, `Framer.History.run` — a framer with its record;
* `Framer.History.Sound` — the invariant: nothing was lost, doubled, invented or reordered.

Main results:

* `Framer.History.Sound.step`, `Framer.History.Sound.run` — every call keeps the invariant;
* `Framer.History.exists_next_eq_none` — taking messages one by one comes to an end;
* `Framer.History.nothing_lost` — **what came out and what waits are the stream**, and decoding
  finds its only framing;
* `Framer.chunking_irrelevant` — **how a stream is cut makes no difference**.
-/

import Framewire.Proofs.Framing

set_option autoImplicit false

namespace Framewire

open Framewire.Frame

namespace Framer

/-! ### Feeding chunks -/

theorem yields_feed (f : Framer) (chunks : List Bytes) :
    Yields f chunks.flatten (f.feed chunks).1.flatten (f.feed chunks).2 := by
  induction chunks generalizing f with
  | nil => exact Yields.refl f
  | cons chunk chunks ih => exact (f.yields_decode chunk).trans (ih _)

theorem unfinished_feed (f : Framer) (h : Unfinished f.buffered) (chunks : List Bytes) :
    Unfinished (f.feed chunks).2.buffered := by
  induction chunks generalizing f with
  | nil => exact h
  | cons chunk chunks ih => exact ih _ (f.unfinished_decode chunk)

/-! ### Calls and histories -/

/-- What the owner of a framer can do with it. -/
inductive Call where
  | extend (chunk : Bytes)
  | next
  | decode (chunk : Bytes)
  | truncate (n : Nat)
deriving DecidableEq, Repr

/-- The bytes that a call adds. -/
def Call.chunk : Call → Bytes
  | extend chunk => chunk
  | next => []
  | decode chunk => chunk
  | truncate _ => []

/-- A framer with a record of what it was told and what came out. -/
structure History where
  framer : Framer
  /-- the messages that came out, in order -/
  emitted : List Message := []
  /-- the bytes that were added, less the ones that were cut off -/
  stream : Bytes := []

namespace History

/-- The history of a new framer. -/
def start (remote : Endpoint) : History := { framer := Framer.new remote }

/-- What a call does.  Cutting bytes off takes as many from the end of the stream as from the end of
the buffer. -/
def step (h : History) : Call → History
  | .extend chunk => { h with framer := h.framer.extend chunk, stream := h.stream ++ chunk }
  | .next =>
    { h with framer := (h.framer.next).2, emitted := h.emitted ++ (h.framer.next).1.toList }
  | .decode chunk =>
    { framer := (h.framer.decode chunk).2
      emitted := h.emitted ++ (h.framer.decode chunk).1
      stream := h.stream ++ chunk }
  | .truncate n =>
    let cut := h.framer.bufferedLength - (h.framer.truncate n).bufferedLength
    { h with framer := h.framer.truncate n, stream := h.stream.take (h.stream.length - cut) }

/-- What a sequence of calls does. -/
def run (h : History) (calls : List Call) : History := calls.foldl step h

@[simp] theorem run_nil (h : History) : h.run [] = h := rfl

@[simp] theorem run_cons (h : History) (call : Call) (calls : List Call) :
    h.run (call :: calls) = (h.step call).run calls := rfl

theorem run_append (h : History) (first later : List Call) :
    h.run (first ++ later) = (h.run first).run later := List.foldl_append

/-! ### The invariant -/

/-- From a new framer for the other end, the stream came to the messages that came out and the bytes
that wait. -/
def Sound (remote : Endpoint) (h : History) : Prop :=
  Yields (Framer.new remote) h.stream h.emitted h.framer

variable {remote : Endpoint} {h : History}

theorem sound_start (remote : Endpoint) : Sound remote (start remote) := Yields.refl _

theorem Sound.eq (hs : Sound remote h) :
    h.stream = (h.emitted.map Message.payload).flatten ++ h.framer.buffered := by
  have := Yields.eq hs
  rwa [buffered_new, List.nil_append] at this

/-- Cutting bytes off the end of the buffer cuts them off the end of the stream. -/
theorem Sound.truncate (hs : Sound remote h) (n : Nat) : Sound remote (h.step (.truncate n)) where
  remote := (remote_truncate h.framer n).trans (Yields.remote hs)
  whole := Yields.whole hs
  eq := by
    simp only [step, bufferedLength_eq, buffered_truncate, buffered_new, List.nil_append]
    rw [hs.eq, List.length_take, List.length_append, List.take_append]
    generalize ((h.emitted.map Message.payload).flatten) = out
    generalize h.framer.buffered = waiting
    -- no more is cut off than waits, so what came out stays whole
    rw [List.take_of_length_le (by omega)]
    congr 1
    rcases Nat.le_total n waiting.length with hn | hn
    · congr 1
      omega
    · rw [List.take_of_length_le (by omega), List.take_of_length_le (by omega)]

/-- Every call keeps the invariant. -/
theorem Sound.step (hs : Sound remote h) (call : Call) : Sound remote (h.step call) := by
  cases call with
  | extend chunk =>
      have := Yields.trans hs (h.framer.yields_extend chunk)
      rwa [List.append_nil] at this
  | next =>
      have := Yields.trans hs h.framer.yields_next
      rwa [List.append_nil] at this
  | decode chunk => exact Yields.trans hs (h.framer.yields_decode chunk)
  | truncate n => exact hs.truncate n

/-- Every run keeps the invariant. -/
theorem Sound.run (hs : Sound remote h) (calls : List Call) : Sound remote (h.run calls) := by
  induction calls generalizing h with
  | nil => exact hs
  | cons call calls ih => exact ih (hs.step call)

/-- As long as nothing is cut off, the stream is what was added. -/
theorem stream_run (calls : List Call) (hcalls : ∀ n, Call.truncate n ∉ calls) :
    (h.run calls).stream = h.stream ++ (calls.map Call.chunk).flatten := by
  induction calls generalizing h with
  | nil => simp
  | cons call calls ih =>
      have hrest : ∀ n, Call.truncate n ∉ calls := fun n hn =>
        hcalls n (List.mem_cons_of_mem _ hn)
      rw [run_cons, ih hrest, List.map_cons, List.flatten_cons, ← List.append_assoc]
      congr 1
      -- a call adds its own bytes; only cutting would take some away
      cases call with
      | extend chunk => rfl
      | next => exact (List.append_nil _).symm
      | decode chunk => rfl
      | truncate n => exact absurd List.mem_cons_self (hcalls n)

/-- Taking messages one by one comes to an end, for each takes bytes with it. -/
theorem exists_next_eq_none (h : History) :
    ∃ n, ((h.run (List.replicate n .next)).framer.next).1 = none := by
  -- induction on the number of bytes that wait
  induction hsize : h.framer.buffered.length using Nat.strongRecOn generalizing h with
  | ind size ih =>
      rcases check_cases h.framer.buffered with ⟨length, hlength⟩ | unfinished
      · obtain ⟨hmin, hmax⟩ := check_bounds hlength
        have hbuffered : (h.step .next).framer.buffered = h.framer.buffered.drop length :=
          (next_of_check hlength).2.1
        have hlt : (h.step .next).framer.buffered.length < size := by
          rw [hbuffered, List.length_drop]
          omega
        obtain ⟨n, hn⟩ := ih _ hlt (h.step .next) rfl
        exact ⟨n + 1, hn⟩
      · exact ⟨0, next_eq_none_iff.2 unfinished⟩

/-- A run that cuts nothing off and ends with no message left comes to what decoding all that was
added at once comes to. -/
theorem run_eq_decode (remote : Endpoint) (calls : List Call)
    (hcalls : ∀ n, Call.truncate n ∉ calls)
    (hnone : (((start remote).run calls).framer.next).1 = none) :
    ((start remote).run calls).emitted =
        ((Framer.new remote).decode (calls.map Call.chunk).flatten).1 ∧
      ((start remote).run calls).framer.buffered =
        ((Framer.new remote).decode (calls.map Call.chunk).flatten).2.buffered := by
  have hsound : Yields (Framer.new remote) _ _ _ := (sound_start remote).run calls
  rw [stream_run calls hcalls] at hsound
  exact hsound.unique (yields_decode _ _) (next_eq_none_iff.1 hnone) (unfinished_decode _ _)

/-! ### Main results -/

/-- **Nothing is lost, doubled, invented or reordered.**  After any calls the payloads that came out
and the bytes that wait are the stream; every payload is a whole frame, from the framer's other end;
where no message is left, nothing changes and no frame is complete; and decoding a chunk finds the
only way to read whole frames off what waits and the chunk until no whole frame begins the rest. -/
theorem nothing_lost (remote : Endpoint) (calls : List Call) :
    let h := (start remote).run calls
    (h.emitted.map Message.payload).flatten ++ h.framer.buffered = h.stream ∧
      (∀ m ∈ h.emitted, check m.payload = .ok m.payload.length ∧ m.remote = remote) ∧
      ((h.framer.next).1 = none →
        (h.step .next).framer.buffered = h.framer.buffered ∧
          check (h.step .next).framer.buffered = .error .incomplete) ∧
      ∀ chunk, check (h.step (.decode chunk)).framer.buffered = .error .incomplete ∧
        ∀ (frames : List Bytes) (rest : Bytes),
          (h.framer.buffered ++ chunk = frames.flatten ++ rest ∧
            (∀ frame ∈ frames, check frame = .ok frame.length) ∧
            ∀ frame, frame <+: rest → check frame ≠ .ok frame.length) ↔
          ((h.framer.decode chunk).1 = frames.map (Message.mk · remote) ∧
            (h.framer.decode chunk).2.buffered = rest) := by
  intro h
  have hsound : Sound remote h := (sound_start remote).run calls
  have hremote : h.framer.remote = remote := Yields.remote hsound
  refine ⟨hsound.eq.symm, Yields.whole hsound, fun hnone => ?_, fun chunk => ⟨?_, ?_⟩⟩
  · have unfinished := next_eq_none_iff.1 hnone
    have hnext : (h.step .next).framer = h.framer := by rw [step, next_of_unfinished unfinished]
    rw [hnext]
    exact ⟨rfl, unfinished⟩
  · exact h.framer.unfinished_decode chunk
  · intro frames rest
    rw [← hremote, decode_eq_iff, Framing.iff_not_prefix]
    rfl

/-- A header is cut in the middle, and the rest of it is sent again. -/
theorem nothing_lost_cut_header :
    let h := (start .unbound).run
      [.extend [0x20], .next, .decode [1, 0xAA, 0xBB, 0xE0, 0x00], .truncate 1, .decode [0, 0]]
    (h.framer.next).1 = none ∧ h.stream = [0x20, 1, 0xAA, 0xBB, 0xE0, 0, 0] ∧
      (h.step .next).framer.buffered = [0xE0, 0, 0] ∧
      ⟨[0x20, 1, 0xAA, 0xBB], .unbound⟩ ∈ h.emitted ∧ check [0x20, 1, 0xAA, 0xBB] = .ok 4 := by
  intro h
  have hnone : (h.framer.next).1 = none := by decide +kernel
  have hwaiting : h.framer.buffered = [0xE0, 0, 0] := by decide +kernel
  have hemitted : ⟨[0x20, 1, 0xAA, 0xBB], .unbound⟩ ∈ h.emitted := by decide +kernel
  obtain ⟨-, hframes, hnext, -⟩ := nothing_lost .unbound
    [.extend [0x20], .next, .decode [1, 0xAA, 0xBB, 0xE0, 0x00], .truncate 1, .decode [0, 0]]
  exact ⟨hnone, by decide +kernel, (hnext hnone).1.trans hwaiting, hemitted,
    (hframes _ hemitted).1⟩

end History

/-- **How a stream is cut makes no difference.**  Decoded chunk by chunk, a stream comes to the same
messages and leaves the same bytes as decoded at once.  So it does when chunks are added without
looking for messages and messages are taken one by one at any time; and taking them one by one comes
to the point where none is left. -/
theorem chunking_irrelevant (remote : Endpoint) (stream : Bytes) :
    (∀ chunks : List Bytes, chunks.flatten = stream →
      ((Framer.new remote).feed chunks).1.flatten = ((Framer.new remote).decode stream).1 ∧
        ((Framer.new remote).feed chunks).2.buffered =
          ((Framer.new remote).decode stream).2.buffered) ∧
      ∀ calls : List Call, (∀ n, Call.truncate n ∉ calls) →
        (calls.map Call.chunk).flatten = stream →
        (∃ n, (((History.start remote).run (calls ++ .replicate n .next)).framer.next).1 = none) ∧
          ∀ n, (((History.start remote).run (calls ++ .replicate n .next)).framer.next).1 = none →
            ((History.start remote).run (calls ++ .replicate n .next)).emitted =
                ((Framer.new remote).decode stream).1 ∧
              ((History.start remote).run (calls ++ .replicate n .next)).framer.buffered =
                ((Framer.new remote).decode stream).2.buffered := by
  refine ⟨?_, fun calls hcalls hstream => ⟨?_, fun n hnone => ?_⟩⟩
  · rintro chunks rfl
    have hfresh : Unfinished (Framer.new remote).buffered := by
      rw [buffered_new]
      exact unfinished_nil
    exact (yields_feed _ chunks).unique (yields_decode _ _) (unfinished_feed _ hfresh chunks)
      (unfinished_decode _ _)
  · simp only [History.run_append]
    exact History.exists_next_eq_none _
  · have hall : ∀ k, Call.truncate k ∉ calls ++ .replicate n .next := by
      intro k hk
      rcases List.mem_append.1 hk with hk | hk
      · exact hcalls k hk
      · exact absurd (List.eq_of_mem_replicate hk) (by simp)
    have hchunks : ((calls ++ .replicate n .next).map Call.chunk).flatten = stream := by
      rw [List.map_append, List.map_replicate, List.flatten_append, hstream]
      simp [Call.chunk]
    have := History.run_eq_decode remote _ hall hnone
    rwa [hchunks] at this

/-- Two frames, cut in the middle of an extended length and of a body. -/
theorem chunking_irrelevant_cut_header :
    let stream := [0xD1, 0, 5, 7] ++ List.replicate 13 1 ++ [0x10, 2, 3]
    let chunks := [[0xD1], [], [0, 5, 7, 1], List.replicate 12 1 ++ [0x10, 2, 3]]
    let calls : List Call := [.extend [0xD1], .next, .decode [0, 5, 7, 1], .next,
      .extend (List.replicate 12 1 ++ [0x10, 2, 3]), .next, .next]
    chunks.flatten = stream ∧ (calls.map Call.chunk).flatten = stream ∧
      (((History.start .unbound).run calls).framer.next).1 = none ∧
      ((Framer.new .unbound).feed chunks).1.flatten =
        ((History.start .unbound).run calls).emitted := by
  intro stream chunks calls
  have hchunks : chunks.flatten = stream := by decide
  have hcalls : (calls.map Call.chunk).flatten = stream := by decide
  have hnone : (((History.start .unbound).run calls).framer.next).1 = none := by decide +kernel
  have huncut : ∀ n, Call.truncate n ∉ calls := by simp [calls]
  obtain ⟨hfeed, hrun⟩ := chunking_irrelevant .unbound stream
  exact ⟨hchunks, hcalls, hnone,
    (hfeed chunks hchunks).1.trans ((hrun calls huncut hcalls).2 0 hnone).1.symm⟩

end Framer

end Framewire
