/-
**Which texts are hexadecimal.**

Text is decoded two bytes at a time, and a character may take more than one byte.  That makes no
difference: all bytes of such a character are above those of digits, wherever the pairs are cut.  So
a text is decoded exactly if its characters are hexadecimal digits of either case, two for each
byte, with one exception: in the first place of a pair a plus sign stands for a zero.  What is
decoded are the bytes whose digits the text writes, up to letter case, and any writing of bytes is
decoded to these bytes.

Main definitions:

* `Hex.IsDigit` — the digits of either case;
* `Hex.unsigned` — a text with zeros for the plus signs that are taken.

Main results:

* `Hex.pairs?_encoded` — **the pairs of a text's bytes are the pairs of its characters**;
* `Hex.decode_eq_ok_iff` — what is decoded is what the text writes;
* `Hex.decode_exact` — **which texts are decoded, and to what**.
-/

import Framewire.Hex
import Mathlib.Data.List.Basic

set_option autoImplicit false

namespace Framewire

namespace Hex

variable {c first second : Char} {chars : List Char} {byte : UInt8} {bytes : Bytes}
  {text : String}

/-! ### Digits -/

/-- A hexadecimal digit, of either case. -/
def IsDigit (c : Char) : Prop :=
  ('0' ≤ c ∧ c ≤ '9') ∨ ('a' ≤ c ∧ c ≤ 'f') ∨ ('A' ≤ c ∧ c ≤ 'F')

instance (c : Char) : Decidable (IsDigit c) := inferInstanceAs (Decidable (_ ∨ _ ∨ _))

/-- No digit is outside ASCII. -/
theorem IsDigit.toNat_lt (h : IsDigit c) : c.toNat < 128 := by
  simp only [IsDigit, Char.le_def, UInt32.le_iff_toNat_le] at h
  rcases h with ⟨-, h⟩ | ⟨-, h⟩ | ⟨-, h⟩ <;> exact Nat.lt_of_le_of_lt h (by decide)

theorem digitValue?_eq_none (h : ¬IsDigit c) : Reader.digitValue? 16 c = none := by
  simp only [IsDigit, not_or] at h
  rw [Reader.digitValue?, if_neg h.1, if_neg h.2.1, if_neg h.2.2, Option.filter_none]

theorem toNat_digit_lt {v : Nat} (hv : v < 16) : (digit v).toNat < 128 := by
  have : ∀ v : Fin 16, (digit v).toNat < 128 := by decide
  exact this ⟨v, hv⟩

/-- Only letters of ASCII have a lower case. -/
theorem toLower_of_le (h : 128 ≤ c.toNat) : c.toLower = c := by
  refine dif_neg ?_
  rintro ⟨-, hle⟩
  exact absurd (Nat.le_trans h hle) (by decide)

/-- The digits are those characters that have a value, and whose lower case is the digit of their
value. -/
theorem digitValue?_eq_some_iff {v : Nat} :
    Reader.digitValue? 16 c = some v ↔ v < 16 ∧ c.toLower = digit v := by
  by_cases hc : c.toNat < 128
  · have hascii : ∀ n : Fin 128, ∀ v : Fin 16,
        Reader.digitValue? 16 (Char.ofNat n) = some v.val ↔ (Char.ofNat n).toLower = digit v := by
      decide +kernel
    have hlt : Reader.digitValue? 16 c = some v → v < 16 := fun hvalue =>
      of_decide_eq_true (Option.filter_eq_some_iff.1 hvalue).2
    constructor
    · intro hvalue
      have hiff := hascii ⟨c.toNat, hc⟩ ⟨v, hlt hvalue⟩
      rw [Char.ofNat_toNat] at hiff
      exact ⟨hlt hvalue, hiff.1 hvalue⟩
    · rintro ⟨hv, hlower⟩
      have hiff := hascii ⟨c.toNat, hc⟩ ⟨v, hv⟩
      rw [Char.ofNat_toNat] at hiff
      exact hiff.2 hlower
  · rw [digitValue?_eq_none fun h => hc h.toNat_lt, toLower_of_le (Nat.le_of_not_lt hc)]
    refine iff_of_false (by simp) ?_
    rintro ⟨hv, rfl⟩
    exact hc (toNat_digit_lt hv)

theorem isDigit_iff : IsDigit c ↔ ∃ v, Reader.digitValue? 16 c = some v := by
  constructor
  · intro h
    have hascii : ∀ n : Fin 128, IsDigit (Char.ofNat n) →
        (Reader.digitValue? 16 (Char.ofNat n)).isSome = true := by decide +kernel
    have hsome := hascii ⟨c.toNat, h.toNat_lt⟩
    rw [Char.ofNat_toNat] at hsome
    exact Option.isSome_iff_exists.1 (hsome h)
  · rintro ⟨v, hvalue⟩
    by_contra h
    rw [digitValue?_eq_none h] at hvalue
    exact absurd hvalue (by simp)

/-! ### The writing of bytes -/

theorem toNat_ofNat {n : Nat} (h : n < 256) : (UInt8.ofNat n).toNat = n :=
  UInt8.toNat_ofNat_of_lt' h

/-- Two characters and others are a writing when the two write a byte and the others the rest. -/
theorem cons_cons_eq_writing_iff :
    first :: second :: chars = bytes.flatMap digits ↔
      ∃ byte rest, bytes = byte :: rest ∧ [first, second] = digits byte ∧
        chars = rest.flatMap digits := by
  cases bytes with
  | nil => simp
  | cons byte rest =>
      simp only [digits, List.flatMap_cons, List.cons_append, List.nil_append, List.cons.injEq,
        and_true]
      constructor
      · rintro ⟨rfl, rfl, rfl⟩
        exact ⟨byte, rest, ⟨rfl, rfl⟩, ⟨rfl, rfl⟩, rfl⟩
      · rintro ⟨_, _, ⟨rfl, rfl⟩, ⟨rfl, rfl⟩, rfl⟩
        exact ⟨rfl, rfl, rfl⟩

theorem length_writing (bytes : Bytes) : (bytes.flatMap digits).length = 2 * bytes.length := by
  induction bytes with
  | nil => rfl
  | cons byte rest ih =>
      rw [List.flatMap_cons, List.length_append, ih, List.length_cons, digits]
      simp only [List.length_cons, List.length_nil]
      omega

/-- What writes bytes, in letters of either case, are digits. -/
theorem isDigit_of_writing (h : chars.map Char.toLower = bytes.flatMap digits) :
    ∀ c ∈ chars, IsDigit c := by
  intro c hc
  have hmem : c.toLower ∈ bytes.flatMap digits := h ▸ List.mem_map_of_mem hc
  obtain ⟨byte, -, hmem⟩ := List.mem_flatMap.1 hmem
  have hlt := byte.toNat_lt
  simp only [digits, List.mem_cons, List.not_mem_nil, or_false] at hmem
  rcases hmem with hdigit | hdigit
  · exact isDigit_iff.2 ⟨_, digitValue?_eq_some_iff.2 ⟨by omega, hdigit⟩⟩
  · exact isDigit_iff.2 ⟨_, digitValue?_eq_some_iff.2 ⟨by omega, hdigit⟩⟩

/-- Two digits write a byte. -/
theorem exists_byte (hfirst : IsDigit first) (hsecond : IsDigit second) :
    ∃ byte, [first.toLower, second.toLower] = digits byte := by
  obtain ⟨high, hhigh⟩ := isDigit_iff.1 hfirst
  obtain ⟨low, hlow⟩ := isDigit_iff.1 hsecond
  obtain ⟨hhigh, hfirst⟩ := digitValue?_eq_some_iff.1 hhigh
  obtain ⟨hlow, hsecond⟩ := digitValue?_eq_some_iff.1 hlow
  have htoNat : (UInt8.ofNat (high * 16 + low)).toNat = high * 16 + low :=
    toNat_ofNat (by omega)
  have hdiv : (high * 16 + low) / 16 = high := by omega
  have hmod : (high * 16 + low) % 16 = low := by omega
  refine ⟨UInt8.ofNat (high * 16 + low), ?_⟩
  rw [digits, htoNat, hdiv, hmod, hfirst, hsecond]

/-! ### Pairs of characters -/

/-- The sign that may stand in the first place of a pair is a zero. -/
def unsignedFirst (c : Char) : Char := if c = '+' then '0' else c

/-- A text with a zero for each plus sign in the first place of a pair of characters. -/
def unsigned : List Char → List Char
  | first :: second :: rest => unsignedFirst first :: second :: unsigned rest
  | [c] => [c]
  | [] => []

theorem length_unsigned (chars : List Char) : (unsigned chars).length = chars.length := by
  induction chars using unsigned.induct with
  | case1 first second rest ih => simp [unsigned, ih]
  | case2 c | case3 => rfl

/-- Signs that are taken are in ASCII, as digits are. -/
theorem toNat_lt_of_unsignedFirst (h : IsDigit (unsignedFirst c)) : c.toNat < 128 := by
  rw [unsignedFirst] at h
  split at h
  · next hc => rw [hc]; decide
  · exact h.toNat_lt

theorem toNat_lt_of_unsigned (h : ∀ c ∈ unsigned chars, IsDigit c) :
    ∀ c ∈ chars, c.toNat < 128 := by
  induction chars using unsigned.induct with
  | case1 first second rest ih =>
      simp only [unsigned, List.forall_mem_cons] at h ⊢
      exact ⟨toNat_lt_of_unsignedFirst h.1, h.2.1.toNat_lt, ih h.2.2⟩
  | case2 c => exact fun d hd => (h d hd).toNat_lt
  | case3 => simp

/-! ### Bytes of characters -/

theorem utf8EncodeChar_of_lt (h : c.toNat < 128) :
    String.utf8EncodeChar c = [UInt8.ofNat c.toNat] :=
  if_pos (Nat.le_of_lt_succ h)

/-- A character outside ASCII takes at least two bytes, which are above those of ASCII. -/
theorem exists_utf8EncodeChar (h : ¬c.toNat < 128) : ∃ (b b' : UInt8) (rest : List UInt8),
    String.utf8EncodeChar c = b :: b' :: rest ∧ 128 ≤ b.toNat ∧ 128 ≤ b'.toNat := by
  have hhigh : ∀ n m, 128 ≤ m → m < 256 → n < 256 - m → 128 ≤ (UInt8.ofNat (n + m)).toNat := by
    intro n m hm hm' hn
    rw [toNat_ofNat (by omega)]
    omega
  have hne : ¬c.val.toNat ≤ 127 := fun hle => h (Nat.lt_succ_of_le hle)
  simp only [String.utf8EncodeChar, if_neg hne]
  split
  · exact ⟨_, _, _, rfl, hhigh _ _ (by decide) (by decide) (by omega),
      hhigh _ _ (by decide) (by decide) (by omega)⟩
  · split <;> exact ⟨_, _, _, rfl, hhigh _ _ (by decide) (by decide) (by omega),
      hhigh _ _ (by decide) (by decide) (by omega)⟩

theorem digitValue?_of_lt (h : c.toNat < 128) :
    digitValue? (UInt8.ofNat c.toNat) = Reader.digitValue? 16 c := by
  rw [digitValue?, toNat_ofNat (by omega), Char.ofNat_toNat]

theorem digitValue?_of_le (h : 128 ≤ byte.toNat) : digitValue? byte = none := by
  have hhigh : ∀ n : Fin 256, 128 ≤ n.val → digitValue? (UInt8.ofNat n) = none := by
    decide +kernel
  have hnone := hhigh ⟨byte.toNat, byte.toNat_lt⟩ h
  rwa [UInt8.ofNat_toNat] at hnone

theorem pair?_eq (a b : UInt8) : pair? a b = (digitValue? b).bind fun low =>
    (if a = '+'.toUInt8 then some 0 else digitValue? a).bind fun high =>
      some (UInt8.ofNat (high * 16 + low)) := by
  rw [pair?]
  split <;> rfl

/-- A pair of ASCII characters writes a byte when the first one, or a zero for its sign, and the
second one are the digits of the byte. -/
theorem pair?_eq_some_iff (hfirst : first.toNat < 128) (hsecond : second.toNat < 128) :
    pair? (UInt8.ofNat first.toNat) (UInt8.ofNat second.toNat) = some byte ↔
      [(unsignedFirst first).toLower, second.toLower] = digits byte := by
  have hhigh : (if UInt8.ofNat first.toNat = '+'.toUInt8 then some 0
        else digitValue? (UInt8.ofNat first.toNat)) =
      Reader.digitValue? 16 (unsignedFirst first) := by
    have hplus : UInt8.ofNat first.toNat = '+'.toUInt8 ↔ first = '+' := by
      rw [← UInt8.toNat_inj, toNat_ofNat (by omega), ← Char.toNat_inj]
      rfl
    rw [unsignedFirst]
    by_cases hc : first = '+'
    · rw [if_pos (hplus.2 hc), if_pos hc]
      rfl
    · rw [if_neg (hplus.not.2 hc), if_neg hc, digitValue?_of_lt hfirst]
  have hlt := byte.toNat_lt
  rw [pair?_eq, digitValue?_of_lt hsecond, hhigh, digits]
  simp only [Option.bind_eq_some_iff, Option.some.injEq, List.cons.injEq, and_true]
  constructor
  · rintro ⟨low, hlow, high, hhigh, rfl⟩
    obtain ⟨hlow, hsecond⟩ := digitValue?_eq_some_iff.1 hlow
    obtain ⟨hhigh, hfirst⟩ := digitValue?_eq_some_iff.1 hhigh
    rw [toNat_ofNat (by omega), hfirst, hsecond]
    exact ⟨congrArg digit (by omega), congrArg digit (by omega)⟩
  · rintro ⟨hfirst, hsecond⟩
    refine ⟨byte.toNat % 16, digitValue?_eq_some_iff.2 ⟨by omega, hsecond⟩, byte.toNat / 16,
      digitValue?_eq_some_iff.2 ⟨by omega, hfirst⟩, ?_⟩
    rw [Nat.div_add_mod', UInt8.ofNat_toNat]

theorem pairs?_of_le {b b' : UInt8} {rest : Bytes} (h : 128 ≤ b'.toNat) :
    pairs? (b :: b' :: rest) = none := by
  rw [pairs?, pair?, digitValue?_of_le h]
  rfl

theorem pairs?_cons_cons_eq_some_iff {b b' : UInt8} {rest : Bytes} :
    pairs? (b :: b' :: rest) = some bytes ↔
      ∃ byte others, bytes = byte :: others ∧ pair? b b' = some byte ∧
        pairs? rest = some others := by
  rw [pairs?]
  simp only [Option.bind_eq_bind, Option.bind_eq_some_iff, Option.pure_def, Option.some.injEq]
  constructor
  · rintro ⟨byte, hpair, others, hothers, rfl⟩
    exact ⟨byte, others, rfl, hpair, hothers⟩
  · rintro ⟨byte, others, rfl, hpair, hothers⟩
    exact ⟨byte, hpair, others, hothers, rfl⟩

/-- **The pairs of a text's bytes are the pairs of its characters**: they write bytes when the
characters do, up to letter case and with zeros for signs. -/
theorem pairs?_encoded (chars : List Char) (bytes : Bytes) :
    pairs? (chars.flatMap String.utf8EncodeChar) = some bytes ↔
      (unsigned chars).map Char.toLower = bytes.flatMap digits := by
  -- a character outside ASCII spoils its pair, and it is no digit
  have hspoiled : ∀ {b b' : UInt8} {rest : Bytes} {chars : List Char} {bytes : Bytes},
      128 ≤ b'.toNat → ¬(∀ c ∈ chars, IsDigit c) →
      (pairs? (b :: b' :: rest) = some bytes ↔
        chars.map Char.toLower = bytes.flatMap digits) := by
    intro b b' rest chars bytes hle hdigits
    rw [pairs?_of_le hle]
    exact iff_of_false (by simp) fun hwriting => hdigits (isDigit_of_writing hwriting)
  induction chars using unsigned.induct generalizing bytes with
  | case1 first second rest ih =>
      rw [List.flatMap_cons, List.flatMap_cons]
      by_cases hfirst : first.toNat < 128
      · rw [utf8EncodeChar_of_lt hfirst, List.singleton_append]
        by_cases hsecond : second.toNat < 128
        · rw [utf8EncodeChar_of_lt hsecond, List.singleton_append, unsigned, List.map_cons,
            List.map_cons, cons_cons_eq_writing_iff, pairs?_cons_cons_eq_some_iff]
          simp only [pair?_eq_some_iff hfirst hsecond, ih]
        · obtain ⟨b, b', others, hencoded, hle, -⟩ := exists_utf8EncodeChar hsecond
          rw [hencoded]
          refine hspoiled hle fun hdigits => hsecond ?_
          exact toNat_lt_of_unsigned hdigits second (by simp)
      · obtain ⟨b, b', others, hencoded, -, hle⟩ := exists_utf8EncodeChar hfirst
        rw [hencoded]
        refine hspoiled hle fun hdigits => hfirst ?_
        exact toNat_lt_of_unsigned hdigits first (by simp)
  | case2 c =>
      rw [List.flatMap_singleton]
      by_cases hc : c.toNat < 128
      · rw [utf8EncodeChar_of_lt hc]
        refine iff_of_false (by simp [pairs?]) fun hwriting => ?_
        have hlength := congrArg List.length hwriting
        rw [length_writing, List.length_map, length_unsigned, List.length_singleton] at hlength
        omega
      · obtain ⟨b, b', others, hencoded, -, hle⟩ := exists_utf8EncodeChar hc
        rw [hencoded]
        refine hspoiled hle fun hdigits => hc ?_
        exact toNat_lt_of_unsigned hdigits c (by simp)
  | case3 =>
      cases bytes with
      | nil => simp [pairs?, unsigned]
      | cons byte rest => simp [pairs?, unsigned, digits]

/-- Bytes are written in pairs. -/
theorem length_of_pairs? {encoded : Bytes} (h : pairs? encoded = some bytes) :
    encoded.length = 2 * bytes.length := by
  induction encoded using pairs?.induct generalizing bytes with
  | case1 b b' rest ih =>
      obtain ⟨byte, others, rfl, -, hothers⟩ := pairs?_cons_cons_eq_some_iff.1 h
      rw [List.length_cons, List.length_cons, ih hothers, List.length_cons]
      omega
  | case2 b => simp [pairs?] at h
  | case3 =>
      obtain rfl : [] = bytes := by simpa [pairs?] using h
      rfl

/-! ### Texts -/

theorem toList_loop (b : ByteArray) (i : Nat) (acc : List UInt8) :
    ByteArray.toList.loop b i acc = acc.reverse ++ b.data.toList.drop i := by
  induction i, acc using ByteArray.toList.loop.induct b with
  | case1 i acc hlt ih =>
      have hlt' : i < b.data.toList.length := hlt
      rw [ByteArray.toList.loop, if_pos hlt, ih, List.drop_eq_getElem_cons hlt', List.reverse_cons,
        List.append_assoc, List.singleton_append, ByteArray.get!, getElem!_pos b.data i hlt,
        Array.getElem_toList]
  | case2 i acc hle =>
      rw [ByteArray.toList.loop, if_neg hle, List.drop_eq_nil_of_le (Nat.le_of_not_lt hle),
        List.append_nil]

/-- The bytes of a text are those of its characters. -/
theorem toList_toUTF8 (text : String) :
    text.toUTF8.toList = text.toList.flatMap String.utf8EncodeChar := by
  have hencode : text.toUTF8 = text.toList.utf8Encode := by
    rw [← String.toByteArray_ofList, String.ofList_toList]
    rfl
  rw [ByteArray.toList, toList_loop, hencode, List.utf8Encode, List.toList_data_toByteArray]
  rfl

theorem length_encoded (text : String) :
    (text.toList.flatMap String.utf8EncodeChar).length = text.utf8ByteSize := by
  rw [← toList_toUTF8, ByteArray.toList, toList_loop]
  exact Array.length_toList

/-- **What is decoded is what the text writes**, up to letter case and with zeros for signs. -/
theorem decode_eq_ok_iff : decode text = .ok bytes ↔
    (unsigned text.toList).map Char.toLower = bytes.flatMap digits := by
  rw [← pairs?_encoded, ← toList_toUTF8, decode, decode?]
  split
  · next hodd =>
    refine iff_of_false (by simp [Except.mapError]) fun hpairs => ?_
    have hlength := length_of_pairs? hpairs
    omega
  · split
    · next decoded hdecoded =>
      rw [hdecoded, Option.some.injEq]
      exact ⟨Except.ok.inj, congrArg Except.ok⟩
    · next hnone =>
      rw [hnone]
      exact iff_of_false (by simp [Except.mapError]) (by simp)

/-- Pairs of digits write bytes. -/
theorem exists_writing (heven : chars.length % 2 = 0) (hdigits : ∀ c ∈ chars, IsDigit c) :
    ∃ bytes : Bytes, chars.map Char.toLower = bytes.flatMap digits := by
  induction chars using unsigned.induct with
  | case1 first second rest ih =>
      simp only [List.forall_mem_cons] at hdigits
      obtain ⟨byte, hbyte⟩ := exists_byte hdigits.1 hdigits.2.1
      obtain ⟨bytes, hbytes⟩ := ih (by simp at heven; omega) hdigits.2.2
      refine ⟨byte :: bytes, ?_⟩
      rw [List.map_cons, List.map_cons]
      exact cons_cons_eq_writing_iff.2 ⟨byte, bytes, rfl, hbyte, hbytes⟩
  | case2 c => simp at heven
  | case3 => exact ⟨[], rfl⟩

/-- A text of ASCII has as many bytes as characters. -/
theorem utf8ByteSize_eq (h : ∀ c ∈ text.toList, c.toNat < 128) :
    text.utf8ByteSize = text.toList.length := by
  rw [← length_encoded]
  generalize text.toList = chars at h
  induction chars with
  | nil => rfl
  | cons c rest ih =>
      rw [List.forall_mem_cons] at h
      rw [List.flatMap_cons, utf8EncodeChar_of_lt h.1, List.singleton_append, List.length_cons,
        ih h.2, List.length_cons]

/-- **A text is decoded exactly if it has pairs of digits**, with zeros for signs. -/
theorem exists_decode_iff (text : String) : (∃ bytes, decode text = .ok bytes) ↔
    text.utf8ByteSize % 2 = 0 ∧ ∀ c ∈ unsigned text.toList, IsDigit c := by
  have hsize (hdigits : ∀ c ∈ unsigned text.toList, IsDigit c) :
      text.utf8ByteSize = (unsigned text.toList).length := by
    rw [utf8ByteSize_eq (toNat_lt_of_unsigned hdigits), length_unsigned]
  constructor
  · rintro ⟨bytes, hbytes⟩
    have hwriting := decode_eq_ok_iff.1 hbytes
    have hdigits := isDigit_of_writing hwriting
    have hlength := congrArg List.length hwriting
    rw [List.length_map, length_writing] at hlength
    exact ⟨by rw [hsize hdigits, hlength, Nat.mul_mod_right], hdigits⟩
  · rintro ⟨heven, hdigits⟩
    rw [hsize hdigits] at heven
    obtain ⟨bytes, hwriting⟩ := exists_writing heven hdigits
    exact ⟨bytes, decode_eq_ok_iff.2 hwriting⟩

/-- Any other text is an invalid value, and the fault says which and why. -/
theorem decode_eq_error (h : ¬∃ bytes, decode text = .ok bytes) :
    decode text = .error (.invalidValue
      ((if text.utf8ByteSize % 2 = 1 then "odd length hex: " else "invalid hex: ") ++ text)) := by
  rw [← length_encoded, ← toList_toUTF8]
  simp only [decode, decode?] at h ⊢
  split
  · rfl
  · next hodd =>
    rw [if_neg hodd] at h
    split
    · next decoded hdecoded =>
      rw [hdecoded] at h
      exact absurd ⟨decoded, rfl⟩ h
    · rfl

theorem unsigned_eq_self (h : '+' ∉ chars) : unsigned chars = chars := by
  induction chars using unsigned.induct with
  | case1 first second rest ih =>
      simp only [List.mem_cons, not_or] at h
      rw [unsigned, unsignedFirst, if_neg (Ne.symm h.1), ih h.2.2]
  | case2 c | case3 => rfl

/-- **Any writing of bytes is decoded to these bytes**, whatever the case of its letters. -/
theorem decode_of_writing (h : text.toList.map Char.toLower = bytes.flatMap digits) :
    decode text = .ok bytes := by
  have hplus : '+' ∉ text.toList := fun hmem =>
    absurd (isDigit_of_writing h '+' hmem) (by decide)
  rw [decode_eq_ok_iff, unsigned_eq_self hplus, h]

/-- The letters among digits are lower-case ones. -/
theorem map_toLower_writing (f : Char → Char) (hf : ∀ v < 16, (f (digit v)).toLower = digit v)
    (bytes : Bytes) : ((bytes.flatMap digits).map f).map Char.toLower = bytes.flatMap digits := by
  induction bytes with
  | nil => rfl
  | cons byte rest ih =>
      have hlt := byte.toNat_lt
      rw [List.flatMap_cons, List.map_append, List.map_append, ih, digits]
      simp only [List.map_cons, List.map_nil, hf (byte.toNat / 16) (by omega),
        hf (byte.toNat % 16) (by omega)]

theorem toList_encode (bytes : Bytes) : (encode bytes).toList = bytes.flatMap digits :=
  String.toList_ofList

/-! ### Main result -/

/-- **Which texts are decoded, and to what.** A text is decoded to the bytes that it writes, up to
letter case and with a zero for each plus sign in the first place of a pair.  It is decoded exactly
if it has an even number of bytes and, with zeros for these signs, nothing but digits of either
case; any other text is an invalid value.  So a text in which no pair begins with a plus sign is
decoded exactly if it has an even number of bytes and nothing but digits, and what is decoded are
the bytes that it writes.  Every writing of bytes is decoded to them, in lower case, in upper case,
or in both. -/
theorem decode_exact (text : String) :
    (∀ bytes, decode text = .ok bytes ↔
        (unsigned text.toList).map Char.toLower = bytes.flatMap digits) ∧
      ((∃ bytes, decode text = .ok bytes) ↔
        text.utf8ByteSize % 2 = 0 ∧ ∀ c ∈ unsigned text.toList, IsDigit c) ∧
      ((¬∃ bytes, decode text = .ok bytes) → decode text = .error (.invalidValue
        ((if text.utf8ByteSize % 2 = 1 then "odd length hex: " else "invalid hex: ") ++ text))) ∧
      (unsigned text.toList = text.toList →
        ((∃ bytes, decode text = .ok bytes) ↔
          text.utf8ByteSize % 2 = 0 ∧ ∀ c ∈ text.toList, IsDigit c) ∧
        ∀ bytes, decode text = .ok bytes ↔
          text.toList.map Char.toLower = bytes.flatMap digits) ∧
      ∀ bytes,
        decode (encode bytes) = .ok bytes ∧
        decode (String.ofList ((encode bytes).toList.map Char.toUpper)) = .ok bytes ∧
        (text.toList.map Char.toLower = (encode bytes).toList → decode text = .ok bytes) := by
  refine ⟨fun bytes => decode_eq_ok_iff, exists_decode_iff text, decode_eq_error,
    fun hunsigned => ?_,
    fun bytes => ⟨decode_of_writing ?_, decode_of_writing ?_, fun hwriting => ?_⟩⟩
  · have hdecode := exists_decode_iff text
    rw [hunsigned] at hdecode
    refine ⟨hdecode, fun bytes => decode_eq_ok_iff.trans ?_⟩
    rw [hunsigned]
  · simpa only [toList_encode, List.map_id] using map_toLower_writing id (by decide) bytes
  · rw [String.toList_ofList, toList_encode]
    exact map_toLower_writing Char.toUpper (by decide) bytes
  · exact decode_of_writing (hwriting.trans (toList_encode bytes))

/-- A text in both cases, one whose second pair is cut out of a character, and one of odd length. -/
theorem decode_exact_of_each_kind :
    unsigned "0fF0".toList = "0fF0".toList ∧ decode "0fF0" = .ok [0x0f, 0xf0] ∧
      decode "aéb" = .error (.invalidValue "invalid hex: aéb") ∧
      decode "日" = .error (.invalidValue "odd length hex: 日") := by
  have hunsigned : unsigned "0fF0".toList = "0fF0".toList := by decide
  obtain ⟨-, -, -, hplain, -⟩ := decode_exact "0fF0"
  obtain ⟨-, hdecode, herror, -, -⟩ := decode_exact "aéb"
  obtain ⟨-, hdecode', herror', -, -⟩ := decode_exact "日"
  refine ⟨hunsigned, ((hplain hunsigned).2 _).2 (by decide), herror fun h => ?_,
    herror' fun h => ?_⟩
  · exact absurd ((hdecode.1 h).2 'é' (by decide)) (by decide)
  · exact absurd (hdecode'.1 h).1 (by decide)

/-- A plus sign is no digit, yet a pair that begins with one is decoded. -/
theorem plus_sign_decoded : decode "+f" = .ok [0x0f] ∧
    ¬((∃ bytes, decode "+f" = .ok bytes) ↔
      "+f".utf8ByteSize % 2 = 0 ∧ ∀ c ∈ "+f".toList, IsDigit c) := by
  have hdecode : decode "+f" = .ok [0x0f] := decode_eq_ok_iff.2 (by decide)
  refine ⟨hdecode, fun hiff => ?_⟩
  exact absurd ((hiff.1 ⟨_, hdecode⟩).2 '+' (by decide)) (by decide)

end Hex

end Framewire
