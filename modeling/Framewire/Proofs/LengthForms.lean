/-
**Length forms.**

The four forms of a body length tile the lengths: every length up to the longest has exactly one
form that can write it, and a form with an extended length of its width writes a length of its own
and of no other form.  So the header that is written for two lengths is the only header from which
these lengths are read, and no bit of a length is lost on the way into the header's bytes.

Main definitions:

* `Frame.formOf` — the form of a body length.

Main results:

* `Frame.bigEndian_bigEndianBytes`, `Frame.bigEndianBytes_bigEndian` — big-endian bytes and numbers
  are each other's inverse;
* `Frame.shiftRight_headerByte`, `Frame.and_headerByte`, `Frame.headerByte_eq_self` — a header byte
  is its two halves;
* `Frame.formOf_eq_iff` — **the forms tile the lengths**;
* `Frame.header_eq_cons_iff` — **a header and the two lengths determine each other**.
-/

import Framewire.Frame
import Mathlib

set_option autoImplicit false

namespace Framewire

namespace Frame

/-! ### Big-endian numbers -/

@[simp] theorem length_bigEndianBytes (value width : Nat) :
    (bigEndianBytes value width).length = width := by
  induction width with
  | zero => rfl
  | succ width ih => simp [bigEndianBytes, ih]

@[simp] theorem bigEndian_nil : bigEndian [] = 0 := rfl

theorem foldl_bigEndian (bytes : Bytes) (value : Nat) :
    bytes.foldl (fun value byte => value * 256 + byte.toNat) value =
      value * 256 ^ bytes.length + bigEndian bytes := by
  induction bytes generalizing value with
  | nil => simp
  | cons byte bytes ih =>
      rw [bigEndian, List.foldl_cons, List.foldl_cons, ih, ih (0 * 256 + byte.toNat),
        List.length_cons, pow_succ]
      ring

theorem bigEndian_cons (byte : UInt8) (bytes : Bytes) :
    bigEndian (byte :: bytes) = byte.toNat * 256 ^ bytes.length + bigEndian bytes := by
  rw [bigEndian, List.foldl_cons, foldl_bigEndian, Nat.zero_mul, Nat.zero_add]

theorem bigEndian_lt (bytes : Bytes) : bigEndian bytes < 256 ^ bytes.length := by
  induction bytes with
  | nil => simp
  | cons byte bytes ih =>
      rw [bigEndian_cons, List.length_cons, Nat.pow_succ, Nat.mul_comm (256 ^ _)]
      calc byte.toNat * 256 ^ bytes.length + bigEndian bytes
          < byte.toNat * 256 ^ bytes.length + 256 ^ bytes.length := Nat.add_lt_add_left ih _
        _ = (byte.toNat + 1) * 256 ^ bytes.length := (Nat.succ_mul _ _).symm
        _ ≤ 256 * 256 ^ bytes.length := Nat.mul_le_mul_right _ byte.toNat_lt

/-- Bytes of the same number and the same width are the same. -/
theorem bigEndian_injective {bytes others : Bytes} (hlength : bytes.length = others.length)
    (h : bigEndian bytes = bigEndian others) : bytes = others := by
  induction bytes generalizing others with
  | nil => exact (List.length_eq_zero_iff.1 hlength.symm).symm
  | cons byte bytes ih =>
      obtain ⟨other, others, rfl⟩ := List.exists_cons_of_length_pos (l := others) (by
        rw [← hlength, List.length_cons]
        omega)
      have hlength : bytes.length = others.length := by simpa using hlength
      have hlt := bigEndian_lt bytes
      have hlt' := bigEndian_lt others
      rw [bigEndian_cons, bigEndian_cons, hlength] at h
      rw [hlength] at hlt
      -- the leading byte is the quotient, the rest the remainder
      have hpos : 0 < 256 ^ others.length := Nat.pow_pos (by decide)
      have hbyte : byte.toNat = other.toNat := by
        have := congrArg (· / 256 ^ others.length) h
        simpa only [Nat.mul_comm _ (256 ^ others.length), Nat.mul_add_div hpos,
          Nat.div_eq_of_lt hlt, Nat.div_eq_of_lt hlt', Nat.add_zero] using this
      rw [hbyte] at h
      rw [UInt8.toNat_inj.1 hbyte, ih hlength (Nat.add_left_cancel h)]

theorem shiftRight_eq_div (value width : Nat) : value >>> (8 * width) = value / 256 ^ width := by
  rw [Nat.shiftRight_eq_div_pow, Nat.pow_mul]

/-- The bytes of a number are read back as the number, as far as the width holds it. -/
theorem bigEndian_bigEndianBytes (value width : Nat) :
    bigEndian (bigEndianBytes value width) = value % 256 ^ width := by
  induction width with
  | zero => simp [bigEndianBytes, Nat.mod_one]
  | succ width ih =>
      have hbyte : (UInt8.ofNat (value >>> (8 * width))).toNat = value / 256 ^ width % 256 := by
        rw [← shiftRight_eq_div]
        exact UInt8.toNat_ofNat'
      rw [bigEndianBytes, bigEndian_cons, ih, length_bigEndianBytes, hbyte, Nat.mod_pow_succ,
        Nat.mul_comm, Nat.add_comm]

/-- A number that its width holds is written without loss. -/
theorem bigEndian_bigEndianBytes_of_lt {value width : Nat} (h : value < 256 ^ width) :
    bigEndian (bigEndianBytes value width) = value := by
  rw [bigEndian_bigEndianBytes, Nat.mod_eq_of_lt h]

theorem bigEndianBytes_bigEndian (bytes : Bytes) :
    bigEndianBytes (bigEndian bytes) bytes.length = bytes :=
  bigEndian_injective (length_bigEndianBytes _ _) (bigEndian_bigEndianBytes_of_lt (bigEndian_lt _))

/-! ### Header bytes -/

theorem toNat_headerByte {form token : Nat} (hform : form < 16) (htoken : token < 16) :
    (headerByte form token).toNat = form * 16 + token := by
  have hshift : (form % 256) <<< 4 % 256 = form <<< 4 := by
    rw [Nat.shiftLeft_eq, Nat.shiftLeft_eq]
    omega
  rw [headerByte, UInt8.toNat_or, UInt8.toNat_shiftLeft, UInt8.toNat_ofNat', UInt8.toNat_ofNat',
    Nat.mod_eq_of_lt (show token < 2 ^ 8 by omega)]
  change (form % 256) <<< 4 % 256 ||| token = form * 16 + token
  rw [hshift, ← Nat.shiftLeft_add_eq_or_of_lt (show token < 2 ^ 4 by omega), Nat.shiftLeft_eq]

theorem toNat_form (first : UInt8) : (first >>> 4).toNat = first.toNat / 16 := by
  rw [UInt8.toNat_shiftRight]
  exact Nat.shiftRight_eq_div_pow first.toNat 4

theorem toNat_tokenLength (first : UInt8) : (first &&& 15).toNat = first.toNat % 16 := by
  rw [UInt8.toNat_and]
  exact Nat.and_two_pow_sub_one_eq_mod first.toNat 4

theorem form_lt (first : UInt8) : (first >>> 4).toNat < 16 := by
  have := first.toNat_lt
  rw [toNat_form]
  omega

theorem tokenLength_le (first : UInt8) : (first &&& 15).toNat ≤ maxTokenLength := by
  rw [toNat_tokenLength, maxTokenLength]
  omega

/-- The high half of a header byte is the form. -/
theorem shiftRight_headerByte {form : UInt8} {token : Nat} (hform : form.toNat < 16)
    (htoken : token ≤ maxTokenLength) : headerByte form.toNat token >>> 4 = form := by
  rw [maxTokenLength] at htoken
  rw [← UInt8.toNat_inj, toNat_form, toNat_headerByte hform (by omega)]
  omega

/-- The low half of a header byte is the length of the token. -/
theorem and_headerByte {form token : Nat} (hform : form < 16) (htoken : token ≤ maxTokenLength) :
    (headerByte form token &&& 15).toNat = token := by
  rw [maxTokenLength] at htoken
  rw [toNat_tokenLength, toNat_headerByte hform (by omega)]
  omega

/-- A byte is the header byte of its two halves. -/
theorem headerByte_eq_self (first : UInt8) :
    headerByte (first >>> 4).toNat (first &&& 15).toNat = first := by
  have hform := form_lt first
  have htoken := tokenLength_le first
  rw [maxTokenLength] at htoken
  rw [← UInt8.toNat_inj, toNat_headerByte hform (by omega), toNat_form, toNat_tokenLength]
  omega

/-! ### The forms of a body length -/

/-- The form in which a body length is written. -/
def formOf (body : Nat) : UInt8 :=
  if body ≤ maxInlineLength then UInt8.ofNat body
  else if body < offset16 then 13
  else if body < offset32 then 14
  else 15

theorem toNat_formOf (body : Nat) :
    (formOf body).toNat =
      if body ≤ maxInlineLength then body
      else if body < offset16 then 13
      else if body < offset32 then 14
      else 15 := by
  rw [formOf]
  split
  · next h =>
    rw [maxInlineLength] at h
    rw [UInt8.toNat_ofNat', Nat.mod_eq_of_lt (by omega)]
  · repeat' split
    all_goals rfl

theorem formOf_lt (body : Nat) : (formOf body).toNat < 16 := by
  rw [toNat_formOf, maxInlineLength]
  repeat' split
  all_goals omega

/-- An inline form has no extended length, and its length is the form itself. -/
theorem inline_form {form : UInt8} (h : form.toNat ≤ maxInlineLength) :
    extendedLengthBytes form = 0 ∧ lengthOffset form = form.toNat := by
  have h : form ≤ 12 := UInt8.le_iff_toNat_le.2 h
  rw [extendedLengthBytes, lengthOffset, if_pos h, if_pos h]
  exact ⟨rfl, rfl⟩

/-- A form is an inline length or one of the three forms with an extended length. -/
theorem form_cases {form : UInt8} (h : form.toNat < 16) :
    form.toNat ≤ maxInlineLength ∨ form = 13 ∨ form = 14 ∨ form = 15 := by
  simp only [← UInt8.toNat_inj, UInt8.reduceToNat, maxInlineLength]
  omega

/-- A header is the byte of the form and the token's length, and the extended length. -/
theorem header_eq (token body : Nat) :
    header token body = headerByte (formOf body).toNat token ::
      bigEndianBytes (body - lengthOffset (formOf body)) (extendedLengthBytes (formOf body)) := by
  by_cases h : body ≤ maxInlineLength
  · have hform : (formOf body).toNat = body := by rw [toNat_formOf, if_pos h]
    obtain ⟨hextended, -⟩ := inline_form (hform.trans_le h)
    rw [header, if_pos h, hextended, hform]
    rfl
  · rw [header, formOf, if_neg h, if_neg h]
    split
    · rfl
    · split <;> rfl

/-- No form can write more than the longest body length. -/
theorem lengthOffset_add_le {form : UInt8} (hform : form.toNat < 16) :
    lengthOffset form + 256 ^ extendedLengthBytes form ≤ maxBodyLength + 1 := by
  rcases form_cases hform with hinline | rfl | rfl | rfl
  · obtain ⟨hextended, hoffset⟩ := inline_form hinline
    rw [maxInlineLength] at hinline
    rw [hextended, hoffset, pow_zero, maxBodyLength]
    omega
  · decide
  · decide
  · decide

/-- **The forms tile the lengths**: a length has the form among whose lengths it is. -/
theorem formOf_eq_iff {form : UInt8} (hform : form.toNat < 16) {body : Nat}
    (hbody : body ≤ maxBodyLength) :
    formOf body = form ↔
      lengthOffset form ≤ body ∧ body < lengthOffset form + 256 ^ extendedLengthBytes form := by
  rw [← UInt8.toNat_inj, toNat_formOf, maxInlineLength, offset16, offset32]
  rw [maxBodyLength, offset32] at hbody
  rcases form_cases hform with hinline | rfl | rfl | rfl
  · obtain ⟨hextended, hoffset⟩ := inline_form hinline
    rw [maxInlineLength] at hinline
    rw [hextended, hoffset, pow_zero]
    split_ifs <;> omega
  · change _ = 13 ↔ 13 ≤ body ∧ body < 13 + 256 ^ 1
    split_ifs <;> omega
  · change _ = 14 ↔ 269 ≤ body ∧ body < 269 + 256 ^ 2
    split_ifs <;> omega
  · change _ = 15 ↔ 65805 ≤ body ∧ body < 65805 + 256 ^ 4
    split_ifs <;> omega

/-- What is left of a length fits into the extended length of its form. -/
theorem sub_lengthOffset_lt {body : Nat} (h : body ≤ maxBodyLength) :
    lengthOffset (formOf body) ≤ body ∧
      body - lengthOffset (formOf body) < 256 ^ extendedLengthBytes (formOf body) := by
  obtain ⟨hle, hlt⟩ := (formOf_eq_iff (formOf_lt body) h).1 rfl
  exact ⟨hle, by omega⟩

/-- What a form can write has that form, and is not too long. -/
theorem formOf_lengthOffset_add {form : UInt8} (hform : form.toNat < 16) {extension : Nat}
    (hextension : extension < 256 ^ extendedLengthBytes form) :
    formOf (lengthOffset form + extension) = form ∧
      lengthOffset form + extension ≤ maxBodyLength := by
  have hbody : lengthOffset form + extension ≤ maxBodyLength := by
    have := lengthOffset_add_le hform
    omega
  exact ⟨(formOf_eq_iff hform hbody).2 ⟨by omega, by omega⟩, hbody⟩

/-- **A header and the two lengths determine each other.**  The header that is written for lengths
that fit is read as these lengths, and every header that can be read is the one that is written for
what is read. -/
theorem header_eq_cons_iff {token body : Nat} {first : UInt8} {extension : Bytes} :
    token ≤ maxTokenLength ∧ body ≤ maxBodyLength ∧ header token body = first :: extension ↔
      extension.length = extendedLengthBytes (first >>> 4) ∧ (first &&& 15).toNat = token ∧
        lengthOffset (first >>> 4) + bigEndian extension = body := by
  constructor
  · rintro ⟨htoken, hbody, hheader⟩
    rw [header_eq, List.cons.injEq] at hheader
    obtain ⟨rfl, rfl⟩ := hheader
    obtain ⟨hoffset, hfits⟩ := sub_lengthOffset_lt hbody
    rw [shiftRight_headerByte (formOf_lt body) htoken, length_bigEndianBytes,
      bigEndian_bigEndianBytes_of_lt hfits]
    exact ⟨rfl, and_headerByte (formOf_lt body) htoken, by omega⟩
  · rintro ⟨hlength, rfl, rfl⟩
    have hfits := bigEndian_lt extension
    rw [hlength] at hfits
    obtain ⟨hform, hbody⟩ := formOf_lengthOffset_add (form_lt first) hfits
    refine ⟨tokenLength_le first, hbody, ?_⟩
    rw [header_eq, hform, headerByte_eq_self, Nat.add_sub_cancel_left, ← hlength,
      bigEndianBytes_bigEndian]

end Frame

end Framewire
