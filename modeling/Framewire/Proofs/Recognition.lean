/-
**Recognising frames.**

Whether a frame stands complete at the front of some bytes, and how long it is, is decided by the
frame's own bytes: what follows them makes no difference, and with one of them missing no frame is
complete yet.  So frames are *prefix-free*: no frame begins another one.  This is what makes the
places at which a stream is cut unique.

Main definitions:

* `Frame.Whole` — the bytes are one complete frame, no more and no less;
* `Frame.Unfinished` — no frame is complete at the front of the bytes.

Main results:

* `Frame.check_append`, `Frame.whole_take` — a frame is recognised by its own bytes alone;
* `Frame.unfinished_take` — a frame with its end missing is unfinished;
* `Frame.Whole.eq_of_append_eq` — **frames are prefix-free**;
* `Frame.unfinished_iff_not_prefix` — bytes are unfinished when no whole frame begins them.
-/

import Framewire.Framer

set_option autoImplicit false

namespace Framewire

namespace Frame

variable {bytes more : Bytes} {length : Nat}

/-! ### The announced length -/

/-- A length is announced once the header is there, and read off the header. -/
theorem announcedLength?_cons_eq_some_iff {first : UInt8} {rest : Bytes} :
    announcedLength? (first :: rest) = some length ↔
      extendedLengthBytes (first >>> 4) ≤ rest.length ∧
        length = 1 + extendedLengthBytes (first >>> 4) + 1 + (first &&& 15).toNat +
          (lengthOffset (first >>> 4) +
            bigEndian (rest.take (extendedLengthBytes (first >>> 4)))) := by
  simp only [announcedLength?, List.length_take]
  split
  · next h =>
    have header : extendedLengthBytes (first >>> 4) ≤ rest.length := by omega
    rw [Option.some.injEq, and_iff_right header, eq_comm]
  · next h =>
    have short : ¬extendedLengthBytes (first >>> 4) ≤ rest.length := by omega
    simp only [reduceCtorEq, short, false_and]

/-- An announced length does not change when more bytes arrive. -/
theorem announcedLength?_append (h : announcedLength? bytes = some length) :
    announcedLength? (bytes ++ more) = some length := by
  cases bytes with
  | nil => simp [announcedLength?] at h
  | cons first rest =>
      obtain ⟨header, rfl⟩ := announcedLength?_cons_eq_some_iff.1 h
      rw [List.cons_append, announcedLength?_cons_eq_some_iff,
        List.take_append_of_le_length header]
      exact ⟨by rw [List.length_append]; omega, rfl⟩

/-- The header is part of the frame that it announces. -/
theorem announcedLength?_take_of_le (h : announcedLength? bytes = some length) {n : Nat}
    (hn : length ≤ n) : announcedLength? (bytes.take n) = some length := by
  cases bytes with
  | nil => simp [announcedLength?] at h
  | cons first rest =>
      obtain ⟨header, hlength⟩ := announcedLength?_cons_eq_some_iff.1 h
      obtain ⟨m, rfl⟩ : ∃ m, n = m + 1 := ⟨n - 1, by omega⟩
      have hm : extendedLengthBytes (first >>> 4) ≤ m := by omega
      rw [List.take_succ_cons, announcedLength?_cons_eq_some_iff, List.take_take,
        Nat.min_eq_left hm, List.length_take]
      exact ⟨by omega, hlength⟩

/-! ### Complete and unfinished frames -/

theorem check_eq_ok_iff :
    check bytes = .ok length ↔ announcedLength? bytes = some length ∧ length ≤ bytes.length := by
  rw [← lengthWithin?_eq_some_iff, check, completeLength?]
  cases lengthWithin? bytes bytes.length <;> simp

/-- The bytes are one complete frame. -/
def Whole (bytes : Bytes) : Prop := check bytes = .ok bytes.length

/-- No frame is complete at the front of the bytes. -/
def Unfinished (bytes : Bytes) : Prop := check bytes = .error .incomplete

instance (bytes : Bytes) : Decidable (Whole bytes) :=
  decidable_of_iff (completeLength? bytes = some bytes.length) <| by
    rw [Whole, check]
    cases completeLength? bytes <;> simp

instance (bytes : Bytes) : Decidable (Unfinished bytes) :=
  decidable_of_iff (completeLength? bytes = none) <| by
    rw [Unfinished, check]
    cases completeLength? bytes <;> simp

theorem whole_iff : Whole bytes ↔ announcedLength? bytes = some bytes.length := by
  rw [Whole, check_eq_ok_iff]
  simp

theorem unfinished_iff : Unfinished bytes ↔ ∀ n, check bytes ≠ .ok n := by
  rw [Unfinished, check]
  cases completeLength? bytes <;> simp

theorem check_cases (bytes : Bytes) : (∃ n, check bytes = .ok n) ∨ Unfinished bytes := by
  by_cases h : ∃ n, check bytes = .ok n
  · exact .inl h
  · exact .inr (unfinished_iff.2 fun n hn => h ⟨n, hn⟩)

theorem unfinished_iff_lt :
    Unfinished bytes ↔ ∀ n, announcedLength? bytes = some n → bytes.length < n := by
  simp only [unfinished_iff, ne_eq, check_eq_ok_iff, not_and, Nat.not_le]

/-- Without a byte there is no frame. -/
theorem unfinished_nil : Unfinished [] := rfl

/-! ### A frame is recognised by its own bytes -/

theorem check_bounds (h : check bytes = .ok length) : 2 ≤ length ∧ length ≤ bytes.length := by
  obtain ⟨announced, bound⟩ := check_eq_ok_iff.1 h
  exact ⟨two_le_announcedLength? announced, bound⟩

/-- What follows a frame makes no difference to it. -/
theorem check_append (h : check bytes = .ok length) (more : Bytes) :
    check (bytes ++ more) = .ok length := by
  obtain ⟨announced, bound⟩ := check_eq_ok_iff.1 h
  refine check_eq_ok_iff.2 ⟨announcedLength?_append announced, ?_⟩
  rw [List.length_append]
  omega

/-- The bytes of a frame suffice to recognise it. -/
theorem whole_take (h : check bytes = .ok length) : Whole (bytes.take length) := by
  obtain ⟨announced, bound⟩ := check_eq_ok_iff.1 h
  rw [whole_iff, List.length_take, Nat.min_eq_left bound]
  exact announcedLength?_take_of_le announced (Nat.le_refl length)

/-- A frame with its end missing is unfinished. -/
theorem unfinished_take (h : check bytes = .ok length) {n : Nat} (hn : n < length) :
    Unfinished (bytes.take n) := by
  rw [unfinished_iff_lt]
  intro m hm
  obtain ⟨announced, -⟩ := check_eq_ok_iff.1 h
  have again : announcedLength? (bytes.take n ++ bytes.drop n) = some m :=
    announcedLength?_append hm
  rw [List.take_append_drop, announced, Option.some.injEq] at again
  rw [List.length_take]
  omega

example : Unfinished (List.take 3 [0x20, 1, 0xAA, 0xBB]) := by decide

theorem Whole.check_append {frame : Bytes} (h : Whole frame) (more : Bytes) :
    check (frame ++ more) = .ok frame.length :=
  Frame.check_append h more

/-- **Frames are prefix-free**: two frames at the front of the same bytes are the same frame. -/
theorem Whole.eq_of_append_eq {frame other more rest : Bytes} (h : Whole frame)
    (h' : Whole other) (he : frame ++ more = other ++ rest) : frame = other ∧ more = rest := by
  have hlength : frame.length = other.length := by
    have := h.check_append more
    rw [he, h'.check_append rest, Except.ok.injEq] at this
    exact this.symm
  exact List.append_inj he hlength

/-- Bytes are unfinished when no whole frame begins them. -/
theorem unfinished_iff_not_prefix : Unfinished bytes ↔ ∀ frame, frame <+: bytes → ¬Whole frame := by
  constructor
  · rintro h frame ⟨more, rfl⟩ hframe
    exact unfinished_iff.1 h _ (hframe.check_append more)
  · intro h
    refine unfinished_iff.2 fun n hn => ?_
    exact h (bytes.take n) (List.take_prefix n bytes) (whole_take hn)

end Frame

end Framewire
