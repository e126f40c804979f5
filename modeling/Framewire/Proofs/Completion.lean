/-
**Completing a frame.**

Bytes at whose front no frame is complete are never wrong, only too few.  As soon as the header is
there it announces a length, which is then greater than the number of bytes, so that the number of
missing bytes is known; and before that, some more bytes complete the header.  Either way the bytes
begin a whole frame.

In the other direction a frame that is complete takes at least two bytes with it when it leaves.  A
loop that takes message after message out of a buffer therefore ends, whatever is in the buffer.

Main definitions:

* `Framer.Drains` — the runs of the loop that takes messages until there is none.

Main results:

* `Frame.announcedLength?_le` — no announced length is greater than that of the longest frame;
* `Frame.exists_completion` — **unfinished bytes begin a whole frame**;
* `Framer.Drains.two_mul_length_le` — the loop takes a turn for every two bytes at most;
* `Framer.drains_iff` — **the loop ends**, with what draining comes to;
* `Frame.check_stable` — recognition is prefix-free and stable, with all that rests on it.
-/

import Framewire.Proofs.Framing
import Framewire.Proofs.LengthForms

set_option autoImplicit false

namespace Framewire

namespace Frame

variable {bytes : Bytes} {total : Nat}

/-! ### Announced lengths -/

/-- The header byte and its extended length announce a length. -/
theorem exists_announcedLength? {first : UInt8} {rest : Bytes}
    (header : extendedLengthBytes (first >>> 4) ≤ rest.length) :
    ∃ total, announcedLength? (first :: rest) = some total :=
  ⟨_, announcedLength?_cons_eq_some_iff.2 ⟨header, rfl⟩⟩

/-- No announced length is greater than that of a frame with the longest token and body. -/
theorem announcedLength?_le (h : announcedLength? bytes = some total) :
    total ≤ 1 + 4 + 1 + maxTokenLength + maxBodyLength := by
  cases bytes with
  | nil => simp [announcedLength?] at h
  | cons first rest =>
      obtain ⟨header, rfl⟩ := announcedLength?_cons_eq_some_iff.1 h
      have hwidth := extendedLengthBytes_le (first >>> 4)
      have htoken := tokenLength_le first
      have hform := lengthOffset_add_le (form_lt first)
      have hextension := bigEndian_lt (rest.take (extendedLengthBytes (first >>> 4)))
      rw [List.length_take_of_le header] at hextension
      omega

/-! ### Completing a frame -/

/-- Bytes that announce a length are completed by as many bytes as are missing. -/
theorem check_append_replicate (h : announcedLength? bytes = some total)
    (hle : bytes.length ≤ total) :
    check (bytes ++ List.replicate (total - bytes.length) 0) = .ok total := by
  refine check_eq_ok_iff.2 ⟨announcedLength?_append h, ?_⟩
  rw [List.length_append, List.length_replicate]
  omega

/-- Unfinished bytes are completed to a header, if it is not there yet; and they are no longer than
the frame that it announces. -/
theorem exists_announced (h : Unfinished bytes) :
    ∃ more total, announcedLength? (bytes ++ more) = some total ∧
      (bytes ++ more).length ≤ total := by
  cases bytes with
  | nil => exact ⟨[0], 2, rfl, by decide⟩
  | cons first rest =>
      rcases Nat.lt_or_ge rest.length (extendedLengthBytes (first >>> 4)) with hshort | header
      · -- the header is completed, and no more than that
        have hlength : (rest ++
            List.replicate (extendedLengthBytes (first >>> 4) - rest.length) 0).length =
              extendedLengthBytes (first >>> 4) := by
          rw [List.length_append, List.length_replicate]
          omega
        have hannounced := announcedLength?_cons_eq_some_iff.2 ⟨Nat.le_of_eq hlength.symm, rfl⟩
        refine ⟨_, _, hannounced, ?_⟩
        rw [List.cons_append, List.length_cons, hlength]
        omega
      · obtain ⟨total, htotal⟩ := exists_announcedLength? header
        refine ⟨[], total, ?_, ?_⟩
        · rw [List.append_nil, htotal]
        · rw [List.append_nil]
          exact Nat.le_of_lt (unfinished_iff_lt.1 h total htotal)

/-- **Unfinished bytes begin a whole frame.** -/
theorem exists_completion (h : Unfinished bytes) : ∃ more, Whole (bytes ++ more) := by
  obtain ⟨header, total, hannounced, hle⟩ := exists_announced h
  have hcheck := check_append_replicate hannounced hle
  refine ⟨header ++ List.replicate (total - (bytes ++ header).length) 0, ?_⟩
  rw [← List.append_assoc, Whole, hcheck, List.length_append, List.length_replicate]
  congr 1
  omega

end Frame

/-! ### The loop that takes messages -/

namespace Framer

open Framewire.Frame

variable {f g : Framer} {messages : List Message} {m : Message}

/-- The loop takes messages from a framer until there is none: the messages, and the framer then. -/
inductive Drains : Framer → List Message → Framer → Prop where
  | stop {f g : Framer} (hnext : f.next = (none, g)) : Drains f [] g
  | turn {f g e : Framer} {m : Message} {messages : List Message} (hnext : f.next = (some m, g))
      (hrest : Drains g messages e) : Drains f (m :: messages) e

/-- A turn takes a whole frame off the front, which has at least two bytes. -/
theorem buffered_of_next (h : f.next = (some m, g)) :
    f.buffered = m.payload ++ g.buffered ∧ 2 ≤ m.payload.length := by
  have hyields := f.yields_next
  rw [h, Option.toList_some] at hyields
  refine ⟨?_, (check_bounds (hyields.whole m (List.mem_singleton_self m)).1).1⟩
  simpa using hyields.eq

/-- The loop takes a turn for every two bytes at most. -/
theorem Drains.two_mul_length_le (h : Drains f messages g) :
    2 * messages.length + g.buffered.length ≤ f.buffered.length := by
  induction h with
  | @stop f g hnext =>
      have hsame : f = g := by
        have hnone : (f.next).1 = none := by rw [hnext]
        rw [next_of_unfinished (next_eq_none_iff.1 hnone), Prod.mk.injEq] at hnext
        exact hnext.2
      rw [hsame, List.length_nil]
      omega
  | turn hnext hrest ih =>
      obtain ⟨hbuffered, htwo⟩ := buffered_of_next hnext
      rw [hbuffered, List.length_append, List.length_cons]
      omega

/-- The loop comes to one end only. -/
theorem Drains.unique (h : Drains f messages g) {others : List Message} {e : Framer}
    (h' : Drains f others e) : messages = others ∧ g = e := by
  induction h generalizing others with
  | stop hnext =>
      cases h' with
      | stop hnext' => exact ⟨rfl, (Prod.mk.inj (hnext.symm.trans hnext')).2⟩
      | turn hnext' => exact absurd (Prod.mk.inj (hnext.symm.trans hnext')).1 (by simp)
  | turn hnext hrest ih =>
      cases h' with
      | stop hnext' => exact absurd (Prod.mk.inj (hnext.symm.trans hnext')).1 (by simp)
      | turn hnext' hrest' =>
          obtain ⟨hm, rfl⟩ := Prod.mk.inj (hnext.symm.trans hnext')
          obtain ⟨rfl, rfl⟩ := ih hrest'
          exact ⟨by rw [Option.some.inj hm], rfl⟩

theorem exists_drains_drainOnto (taken : List Message) (f : Framer) :
    ∃ messages, (drainOnto taken f).1 = taken.reverse ++ messages ∧
      Drains f messages (drainOnto taken f).2 := by
  fun_induction drainOnto taken f with
  | case1 taken f length hlength ih =>
      obtain ⟨messages, hmessages, hdrains⟩ := ih
      refine ⟨_, ?_, .turn (by rw [next, hlength]) hdrains⟩
      rw [hmessages, List.reverse_cons, List.append_assoc]
      rfl
  | case2 taken f hlength =>
      exact ⟨[], (List.append_nil _).symm, .stop (by rw [next, hlength])⟩

/-- **The loop ends**, with what draining comes to. -/
theorem drains_iff : Drains f messages g ↔ f.drain = (messages, g) := by
  have hdrains : Drains f f.drain.1 f.drain.2 := by
    obtain ⟨found, hfound, hdrains⟩ := exists_drains_drainOnto [] f
    rw [List.reverse_nil, List.nil_append] at hfound
    rwa [drain, hfound]
  constructor
  · intro h
    obtain ⟨hmessages, hg⟩ := h.unique hdrains
    exact Prod.ext hmessages.symm hg.symm
  · intro h
    rwa [h] at hdrains

end Framer

/-! ### Main result -/

namespace Frame

/-- **Recognition is prefix-free and stable.**

* A frame that is recognised has at least two bytes and all of them are there; with its end missing
  it is incomplete, and whatever follows it makes no difference.  So no whole frame begins another
  one.
* Incomplete bytes begin a whole frame.  If their header is complete, it announces a length that is
  greater than the number of bytes, and no greater than a machine word holds; so the number of
  missing bytes is a proper difference.
* A turn of the loop by which a chunk is decoded takes at least two bytes off the buffer; and the
  loop ends, with the messages that decoding hands out, after a turn for every two bytes at most. -/
theorem check_stable :
    ((∀ bytes length, check bytes = .ok length →
        2 ≤ length ∧ length ≤ bytes.length ∧
          (∀ n < length, check (bytes.take n) = .error .incomplete) ∧
          ∀ more, check (bytes.take length ++ more) = .ok length) ∧
      ∀ frame other, check frame = .ok frame.length → check other = .ok other.length →
        frame <+: other → frame = other) ∧
    ((∀ bytes, check bytes = .error .incomplete →
        ∃ more, check (bytes ++ more) = .ok (bytes.length + more.length)) ∧
      ∀ (first : UInt8) (rest : Bytes), extendedLengthBytes (first >>> 4) ≤ rest.length →
        check (first :: rest) = .error .incomplete →
          ∃ total, announcedLength? (first :: rest) = some total ∧
            (first :: rest).length < total ∧ total < 2 ^ 64) ∧
    ((∀ (f g : Framer) m, f.next = (some m, g) → g.buffered.length + 2 ≤ f.buffered.length) ∧
      ∀ (f : Framer) chunk,
        Framer.Drains (f.extend chunk) (f.decode chunk).1 (f.decode chunk).2 ∧
          2 * (f.decode chunk).1.length + (f.decode chunk).2.buffered.length ≤
            f.buffered.length + chunk.length) := by
  refine ⟨⟨fun bytes length h => ?_, fun frame other hframe hother hstart => ?_⟩,
    ⟨fun bytes h => ?_, fun first rest header h => ?_⟩, fun f g m h => ?_, fun f chunk => ?_⟩
  · obtain ⟨hmin, hmax⟩ := check_bounds h
    refine ⟨hmin, hmax, fun n hn => unfinished_take h hn, fun more => ?_⟩
    rw [(whole_take h).check_append more, List.length_take_of_le hmax]
  · obtain ⟨more, hmore⟩ := hstart
    have hframe : Whole frame := hframe
    exact (hframe.eq_of_append_eq hother (hmore.trans (List.append_nil other).symm)).1
  · obtain ⟨more, hmore⟩ := exists_completion h
    rw [Whole, List.length_append] at hmore
    exact ⟨more, hmore⟩
  · obtain ⟨total, htotal⟩ := exists_announcedLength? header
    have hbound := announcedLength?_le htotal
    rw [maxTokenLength, maxBodyLength, offset32] at hbound
    exact ⟨total, htotal, unfinished_iff_lt.1 h total htotal, by omega⟩
  · obtain ⟨hbuffered, htwo⟩ := Framer.buffered_of_next h
    rw [hbuffered, List.length_append]
    omega
  · have hdrains : Framer.Drains (f.extend chunk) (f.decode chunk).1 (f.decode chunk).2 :=
      Framer.drains_iff.2 rfl
    have hturns := hdrains.two_mul_length_le
    rw [Framer.buffered_extend, List.length_append] at hturns
    exact ⟨hdrains, hturns⟩

/-- The longest length is announced byte by byte, a frame with a one-byte extended length is cut,
and three frames are decoded from a chunk that ends in a fourth one. -/
theorem check_stable_in_each_width :
    check ([0xF0, 0xFF, 0xFF, 0xFF] : Bytes) = .error .incomplete ∧
      (∃ more : Bytes, check ([0xF0, 0xFF, 0xFF, 0xFF] ++ more) = .ok (4 + more.length)) ∧
      (∃ total, announcedLength? [0xF0, 0xFF, 0xFF, 0xFF, 0xFF, 1] = some total ∧
        6 < total ∧ total < 2 ^ 64) ∧
      check (0xD1 :: 0 :: 5 :: 7 :: List.replicate 15 1) = .ok 17 ∧
      check ((0xD1 :: 0 :: 5 :: 7 :: List.replicate 15 1).take 16) = .error .incomplete ∧
      (∀ more, check ((0xD1 :: 0 :: 5 :: 7 :: List.replicate 15 1).take 17 ++ more) = .ok 17) ∧
      ¬[0x00, 1] <+: ([0x01, 1, 9] : Bytes) ∧
      2 * ((Framer.new .unbound).decode [0x00, 1, 0x01, 1, 9, 0x10, 2, 3, 0xE0]).1.length +
        ((Framer.new .unbound).decode [0x00, 1, 0x01, 1, 9, 0x10, 2, 3, 0xE0]).2.buffered.length ≤
          0 + 9 := by
  obtain ⟨⟨hframe, hstart⟩, ⟨hcomplete, hannounced⟩, -, hloop⟩ := check_stable
  have hcut : check ([0xF0, 0xFF, 0xFF, 0xFF] : Bytes) = .error .incomplete := rfl
  have hwhole : check (0xD1 :: 0 :: 5 :: 7 :: List.replicate 15 1) = .ok 17 := rfl
  obtain ⟨-, -, hshort, hmore⟩ := hframe _ 17 hwhole
  refine ⟨hcut, hcomplete _ hcut, hannounced 0xF0 [0xFF, 0xFF, 0xFF, 0xFF, 1] (by decide) rfl,
    hwhole, hshort 16 (by decide), hmore, fun h => ?_, (hloop _ _).2⟩
  exact absurd (hstart [0x00, 1] [0x01, 1, 9] rfl rfl h) (by decide)

end Frame

end Framewire
