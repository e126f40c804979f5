/-
**One written form.**

A code, a token and a body that fit are written in exactly one way, as one whole frame; and every
whole frame is what some code, token and body are written as.  So writing is a bijection between
the parts that fit and the whole frames, and a stream of written frames is read back as it was
written, whatever unfinished bytes come behind it.

Main definitions:

* `Frame.Parts`, `Frame.Parts.Fits`, `Frame.Parts.encode` — what a frame is made of, whether it
  fits, and its frame.

Main results:

* `Frame.Parts.encode_eq_ok_iff` — when there is a frame, and which;
* `Frame.Parts.whole_of_encode`, `Frame.Parts.exists_of_whole`, `Frame.Parts.encode_injective` —
  the three parts of the bijection;
* `Frame.encode_canonical` — **the wire format is canonical**;
* `Framer.decode_encode` — **decoding undoes encoding**, over whole streams.
-/

import Framewire.Proofs.Framing
import Framewire.Proofs.LengthForms

set_option autoImplicit false

namespace Framewire

namespace Frame

/-! ### The parts of a frame -/

/-- What a frame is made of. -/
@[ext] structure Parts where
  code : UInt8
  token : Bytes
  body : Bytes
deriving DecidableEq, Repr

namespace Parts

/-- The parts fit into a frame. -/
def Fits (p : Parts) : Prop :=
  p.token.length ≤ maxTokenLength ∧ p.body.length ≤ maxBodyLength

instance (p : Parts) : Decidable p.Fits := inferInstanceAs (Decidable (_ ∧ _))

/-- The frame of the parts, or the fault of what does not fit. -/
def encode (p : Parts) : Except Fault Bytes := Frame.encode p.code p.token p.body

variable {p q : Parts} {frame : Bytes}

theorem encode_of_long_token (h : maxTokenLength < p.token.length) :
    p.encode = .error (Oversize.token p.token.length).fault := by
  rw [encode, Frame.encode, encode?, if_pos h]
  rfl

theorem encode_of_long_body (htoken : p.token.length ≤ maxTokenLength)
    (h : maxBodyLength < p.body.length) :
    p.encode = .error (Oversize.body p.body.length).fault := by
  rw [encode, Frame.encode, encode?, if_neg (Nat.not_lt.2 htoken), if_pos h]
  rfl

theorem encode_of_fits (h : p.Fits) :
    p.encode = .ok (header p.token.length p.body.length ++ p.code :: (p.token ++ p.body)) := by
  rw [encode, Frame.encode, encode?, if_neg (Nat.not_lt.2 h.1), if_neg (Nat.not_lt.2 h.2)]
  rfl

/-- There is a frame when the parts fit: the header, the code, the token and the body. -/
theorem encode_eq_ok_iff :
    p.encode = .ok frame ↔
      p.Fits ∧ frame = header p.token.length p.body.length ++ p.code :: (p.token ++ p.body) := by
  by_cases hfits : p.Fits
  · rw [encode_of_fits hfits, Except.ok.injEq, and_iff_right hfits, eq_comm]
  · constructor
    · intro h
      rcases Nat.lt_or_ge maxTokenLength p.token.length with htoken | htoken
      · rw [encode_of_long_token htoken] at h
        exact absurd h (by simp)
      · have hbody : maxBodyLength < p.body.length := Nat.lt_of_not_le fun hb => hfits ⟨htoken, hb⟩
        rw [encode_of_long_body htoken hbody] at h
        exact absurd h (by simp)
    · exact fun h => absurd h.1 hfits

/-- The frame of parts that fit, by its first byte, its extended length and the rest. -/
theorem exists_header (h : p.encode = .ok frame) :
    ∃ first extension, frame = first :: (extension ++ p.code :: (p.token ++ p.body)) ∧
      extension.length = extendedLengthBytes (first >>> 4) ∧
      (first &&& 15).toNat = p.token.length ∧
      lengthOffset (first >>> 4) + bigEndian extension = p.body.length := by
  obtain ⟨hfits, rfl⟩ := encode_eq_ok_iff.1 h
  obtain ⟨first, extension, hheader⟩ :
      ∃ first extension, header p.token.length p.body.length = first :: extension :=
    ⟨_, _, header_eq _ _⟩
  obtain ⟨hlength, htoken, hbody⟩ := header_eq_cons_iff.1 ⟨hfits.1, hfits.2, hheader⟩
  exact ⟨first, extension, by rw [hheader, List.cons_append], hlength, htoken, hbody⟩

/-- What is written is one whole frame. -/
theorem whole_of_encode (h : p.encode = .ok frame) : Whole frame := by
  obtain ⟨first, extension, rfl, hlength, htoken, hbody⟩ := exists_header h
  rw [whole_iff, announcedLength?_cons_eq_some_iff, List.take_left' hlength]
  simp only [List.length_cons, List.length_append]
  omega

/-- Every whole frame is what some parts that fit are written as. -/
theorem exists_of_whole (h : Whole frame) : ∃ p : Parts, p.encode = .ok frame := by
  rw [whole_iff] at h
  cases frame with
  | nil => simp [announcedLength?] at h
  | cons first rest =>
      obtain ⟨header_le, hlength⟩ := announcedLength?_cons_eq_some_iff.1 h
      obtain ⟨extension, tail, rfl, hextension⟩ :
          ∃ extension tail, rest = extension ++ tail ∧
            extension.length = extendedLengthBytes (first >>> 4) :=
        ⟨_, _, (List.take_append_drop _ _).symm, List.length_take_of_le header_le⟩
      rw [List.take_left' hextension, List.length_cons, List.length_append] at hlength
      obtain ⟨code, content, rfl⟩ := List.exists_cons_of_length_pos (l := tail) (by omega)
      obtain ⟨token, body, rfl, htoken⟩ :
          ∃ token body, content = token ++ body ∧ token.length = (first &&& 15).toNat := by
        refine ⟨_, _, (List.take_append_drop (first &&& 15).toNat _).symm, ?_⟩
        rw [List.length_cons] at hlength
        exact List.length_take_of_le (by omega)
      have hbody : lengthOffset (first >>> 4) + bigEndian extension = body.length := by
        rw [List.length_cons, List.length_append] at hlength
        omega
      obtain ⟨hfitsToken, hfitsBody, hheader⟩ :=
        header_eq_cons_iff.2 ⟨hextension, htoken.symm, hbody⟩
      refine ⟨⟨code, token, body⟩, encode_eq_ok_iff.2 ⟨⟨hfitsToken, hfitsBody⟩, ?_⟩⟩
      rw [hheader, List.cons_append]

/-- Different parts are written differently. -/
theorem encode_injective (hp : p.encode = .ok frame) (hq : q.encode = .ok frame) : p = q := by
  obtain ⟨first, extension, rfl, hlength, htoken, -⟩ := exists_header hp
  obtain ⟨first', extension', heq, hlength', htoken', -⟩ := exists_header hq
  obtain ⟨hfirst, hrest⟩ := List.cons.inj heq
  rw [← hfirst] at hlength' htoken'
  -- the first byte fixes how long the extended length and the token are
  obtain ⟨-, hcontent⟩ := List.append_inj hrest (hlength.trans hlength'.symm)
  obtain ⟨hcode, hcontent⟩ := List.cons.inj hcontent
  obtain ⟨hsameToken, hsameBody⟩ := List.append_inj hcontent (htoken.symm.trans htoken')
  exact Parts.ext hcode hsameToken hsameBody

end Parts

/-! ### Main results -/

/-- **The wire format is canonical.**  There is a frame exactly when token and body fit, and
otherwise the fault of the token, or else of the body.  Parts that fit are written differently if
they differ, and the whole frames are what exactly one choice of parts is written as.  No length
loses a bit on its way into the half of a byte or the bytes in which it stands, and the headers that
can be read are exactly the ones that are written. -/
theorem encode_canonical :
    (∀ (code : UInt8) (token body : Bytes),
      ((∃ frame, encode code token body = .ok frame) ↔
        token.length ≤ 15 ∧ body.length ≤ 4294967295 + 65805) ∧
      (15 < token.length → encode code token body =
        .error (.invalidValue
          ("token length " ++ toString token.length ++ " exceeds " ++ toString 15))) ∧
      (token.length ≤ 15 → 4294967295 + 65805 < body.length → encode code token body =
        .error (.invalidValue ("body length " ++ toString body.length ++ " is too large")))) ∧
    (∀ p q : Parts, p.Fits → q.Fits → p ≠ q → p.encode ≠ q.encode) ∧
    (∀ frame, check frame = .ok frame.length ↔ ∃! p : Parts, p.Fits ∧ p.encode = .ok frame) ∧
    (∀ form token, form ≤ 15 → token ≤ 15 → (headerByte form token).toNat = form * 16 + token) ∧
    (∀ n, 13 ≤ n → n < 269 → bigEndian (bigEndianBytes (n - offset8) 1) = n - offset8) ∧
    (∀ n, 269 ≤ n → n < 65805 → bigEndian (bigEndianBytes (n - offset16) 2) = n - offset16) ∧
    (∀ n, 65805 ≤ n → n ≤ 4294967295 + 65805 →
      bigEndian (bigEndianBytes (n - offset32) 4) = n - offset32) ∧
    ∀ (token body : Nat) (first : UInt8) (extension : Bytes),
      token ≤ 15 ∧ body ≤ 4294967295 + 65805 ∧ header token body = first :: extension ↔
        extension.length = extendedLengthBytes (first >>> 4) ∧ (first &&& 15).toNat = token ∧
          lengthOffset (first >>> 4) + bigEndian extension = body := by
  refine ⟨fun code token body => ⟨?_, ?_, ?_⟩, ?_, fun frame => ⟨?_, ?_⟩, ?_, ?_, ?_, ?_, ?_⟩
  · exact ⟨fun ⟨frame, h⟩ => (Parts.encode_eq_ok_iff (p := ⟨code, token, body⟩).1 h).1,
      fun h => ⟨_, Parts.encode_of_fits (p := ⟨code, token, body⟩) h⟩⟩
  · exact Parts.encode_of_long_token (p := ⟨code, token, body⟩)
  · exact Parts.encode_of_long_body (p := ⟨code, token, body⟩)
  · intro p q hp hq hne h
    have hframe := Parts.encode_of_fits hp
    exact hne (Parts.encode_injective hframe (h.symm.trans hframe))
  · intro h
    obtain ⟨p, hp⟩ := Parts.exists_of_whole h
    exact ⟨p, ⟨(Parts.encode_eq_ok_iff.1 hp).1, hp⟩, fun q hq => Parts.encode_injective hq.2 hp⟩
  · rintro ⟨p, ⟨-, hp⟩, -⟩
    exact Parts.whole_of_encode hp
  · intro form token hform htoken
    exact toNat_headerByte (by omega) (by omega)
  · intro n _ hn
    exact bigEndian_bigEndianBytes_of_lt (by rw [offset8]; omega)
  · intro n _ hn
    exact bigEndian_bigEndianBytes_of_lt (by rw [offset16]; omega)
  · intro n _ hn
    exact bigEndian_bigEndianBytes_of_lt (by rw [offset32]; omega)
  · intro token body first extension
    exact header_eq_cons_iff

/-- One byte above the longest token, one above the longest body, and the last length of a form. -/
theorem encode_canonical_boundaries :
    encode 1 (List.replicate 16 0) [] =
        .error (.invalidValue ("token length " ++ toString 16 ++ " exceeds " ++ toString 15)) ∧
      encode 1 [] (List.replicate 4295033101 0) =
        .error (.invalidValue ("body length " ++ toString 4295033101 ++ " is too large")) ∧
      (∃! p : Parts, p.Fits ∧ p.encode = .ok (0xD1 :: 0 :: 5 :: 7 :: List.replicate 13 1)) ∧
      Parts.encode ⟨1, [2], [3]⟩ ≠ Parts.encode ⟨1, [], [2, 3]⟩ ∧
      (headerByte 12 15).toNat = 207 ∧
      bigEndian (bigEndianBytes (268 - offset8) 1) = 255 ∧
      bigEndian (bigEndianBytes (65804 - offset16) 2) = 65535 ∧
      bigEndian (bigEndianBytes (4295033100 - offset32) 4) = 4294967295 := by
  obtain ⟨hencode, hinjective, honto, hbyte, h8, h16, h32, -⟩ := encode_canonical
  refine ⟨?_, ?_, ?_, ?_, ?_, ?_, ?_, ?_⟩
  · have := (hencode 1 (List.replicate 16 0) []).2.1 (by decide)
    rwa [List.length_replicate] at this
  · have := (hencode 1 [] (List.replicate 4295033101 0)).2.2 (by decide)
      (by rw [List.length_replicate]; decide)
    rwa [List.length_replicate] at this
  · exact (honto _).1 rfl
  · exact hinjective _ _ (by decide) (by decide) (by decide)
  · exact hbyte 12 15 (by decide) (by decide)
  · exact h8 268 (by decide) (by decide)
  · exact h16 65804 (by decide) (by decide)
  · exact h32 4295033100 (by decide) (by decide)

end Frame

namespace Framer

open Framewire.Frame

/-- **Decoding undoes encoding.**  Parts that fit have frames; and the frames of a list of parts,
one behind the other and with any unfinished bytes behind them, are decoded as these frames, in
order and byte for byte, while the unfinished bytes wait. -/
theorem decode_encode (remote : Endpoint) (parts : List Parts) (tail : Bytes)
    (hparts : ∀ p ∈ parts, p.token.length ≤ 15 ∧ p.body.length ≤ 4294967295 + 65805)
    (htail : check tail = .error .incomplete) :
    ∃ frames : List Bytes, parts.map Parts.encode = frames.map .ok ∧
      ((Framer.new remote).decode (frames.flatten ++ tail)).1 = frames.map (Message.mk · remote) ∧
      ((Framer.new remote).decode (frames.flatten ++ tail)).2.buffered = tail := by
  obtain ⟨frames, hframes⟩ : ∃ frames : List Bytes, parts.map Parts.encode = frames.map .ok := by
    refine ⟨parts.map fun p => header p.token.length p.body.length ++ p.code :: (p.token ++ p.body),
      ?_⟩
    rw [List.map_map]
    exact List.map_congr_left fun p hp => Parts.encode_of_fits (hparts p hp)
  refine ⟨frames, hframes, decode_eq_iff.2 ⟨fun frame hframe => ?_, htail, ?_⟩⟩
  · -- each of the frames is what one of the parts is written as
    have hmem : Except.ok frame ∈ parts.map Parts.encode := by
      rw [hframes]
      exact List.mem_map_of_mem hframe
    obtain ⟨p, -, hp⟩ := List.mem_map.1 hmem
    exact Parts.whole_of_encode hp
  · rw [buffered_new, List.nil_append]

/-- Bodies on both sides of every boundary, the shortest and the longest token, and a header that is
cut in its extended length. -/
theorem decode_encode_boundaries :
    let parts : List Parts := [⟨1, [], []⟩, ⟨2, [7], List.replicate 12 0⟩,
      ⟨3, [], List.replicate 13 0⟩, ⟨4, [8, 8], List.replicate 268 0⟩,
      ⟨5, [], List.replicate 269 0⟩, ⟨6, List.replicate 15 9, List.replicate 65804 0⟩,
      ⟨7, [], List.replicate 65805 0⟩]
    let tail : Bytes := [0xF0, 0, 0]
    (∀ p ∈ parts, p.token.length ≤ 15 ∧ p.body.length ≤ 4294967295 + 65805) ∧
      check tail = .error .incomplete ∧
      ∃ frames : List Bytes, parts.map Parts.encode = frames.map .ok ∧
        ((Framer.new .unbound).decode (frames.flatten ++ tail)).1 =
          frames.map (Message.mk · .unbound) ∧
        ((Framer.new .unbound).decode (frames.flatten ++ tail)).2.buffered = tail := by
  intro parts tail
  have hparts : ∀ p ∈ parts, p.token.length ≤ 15 ∧ p.body.length ≤ 4294967295 + 65805 := by
    simp only [parts, List.forall_mem_cons, List.length_replicate]
    decide
  have htail : check tail = .error .incomplete := rfl
  exact ⟨hparts, htail, decode_encode .unbound parts tail hparts htail⟩

end Framer

end Framewire
