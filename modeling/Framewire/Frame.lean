/-
**The wire format.**

A frame is

    header byte | extended length | code | token | body

The high half of the header byte is the *length form* of the body, the low half the length of the
token, at most fifteen.  Four forms tile the body lengths without gap or overlap:

* `0 … 12` — the length itself, no extended length;
* `13` — one byte, lengths from 13;
* `14` — two bytes, lengths from 269;
* `15` — four bytes, lengths from 65805.

An extended length is big-endian and counts from the first length of its form.

Main definitions:

* `Frame.extendedLengthBytes` — how many bytes a length form adds to the header;
* `Frame.announcedLength?` — the length of the frame whose beginning is given, as soon as the
  header is complete;
* `Frame.completeLength?`, `Frame.check` — the length of the frame at the front, if all of it is
  there;
* `Frame.encode?` — the frame of a code, a token and a body, `Frame.Oversize` why there may be none.
-/

import Framewire.Fault
import Framewire.Message

set_option autoImplicit false

namespace Framewire

namespace Frame

/-! ### Length forms -/

/-- The longest body whose length stands in the header byte. -/
def maxInlineLength : Nat := 12

/-- The shortest body with an extended length of one byte. -/
def offset8 : Nat := 13

/-- The shortest body with an extended length of two bytes. -/
def offset16 : Nat := 269

/-- The shortest body with an extended length of four bytes. -/
def offset32 : Nat := 65805

/-- The longest token. -/
def maxTokenLength : Nat := 15

/-- The longest body. -/
def maxBodyLength : Nat := 4294967295 + offset32

/-- The number of bytes that a length form adds to the header; a form above 14 adds four. -/
def extendedLengthBytes (form : UInt8) : Nat :=
  if form ≤ 12 then 0 else if form = 13 then 1 else if form = 14 then 2 else 4

/-- The first body length of a form with an extended length, and the inline length otherwise. -/
def lengthOffset (form : UInt8) : Nat :=
  if form ≤ 12 then form.toNat
  else if form = 13 then offset8
  else if form = 14 then offset16
  else offset32

/-- The number that bytes write, the most significant one first. -/
def bigEndian (bytes : Bytes) : Nat :=
  bytes.foldl (fun value byte => value * 256 + byte.toNat) 0

/-! ### Recognising a frame -/

/-- The length of the frame that begins with the given bytes; nothing until the header byte and
the extended length are there. -/
def announcedLength? : Bytes → Option Nat
  | [] => none
  | first :: rest =>
    let form := first >>> 4
    let token := (first &&& 15).toNat
    let extended := extendedLengthBytes form
    let extension := rest.take extended
    if extension.length = extended then
      some (1 + extended + 1 + token + (lengthOffset form + bigEndian extension))
    else
      none

/-- The length of the frame at the front of `size` bytes that begin with `head`, if the frame
ends among them. -/
def lengthWithin? (head : Bytes) (size : Nat) : Option Nat :=
  (announcedLength? head).filter (· ≤ size)

/-- The length of the complete frame at the front, if there is one. -/
def completeLength? (bytes : Bytes) : Option Nat :=
  lengthWithin? bytes bytes.length

/-- The length of the complete frame at the front; otherwise the bytes are incomplete, for no
beginning of a stream is ever wrong. -/
def check (bytes : Bytes) : Except Fault Nat :=
  match completeLength? bytes with
  | some length => .ok length
  | none => .error .incomplete

/-! ### Writing a frame -/

/-- What does not fit into a frame. -/
inductive Oversize where
  | token (length : Nat)
  | body (length : Nat)
deriving DecidableEq, Repr

/-- The message about what does not fit. -/
def Oversize.message : Oversize → String
  | token length => "token length " ++ toString length ++ " exceeds " ++ toString maxTokenLength
  | body length => "body length " ++ toString length ++ " is too large"

/-- What does not fit, as a fault. -/
def Oversize.fault (e : Oversize) : Fault := .invalidValue e.message

/-- A header byte. -/
def headerByte (form : Nat) (token : Nat) : UInt8 :=
  UInt8.ofNat form <<< 4 ||| UInt8.ofNat token

/-- The last `width` bytes of a number, the most significant one first. -/
def bigEndianBytes (value : Nat) : (width : Nat) → Bytes
  | 0 => []
  | width + 1 => UInt8.ofNat (value >>> (8 * width)) :: bigEndianBytes value width

/-- The header byte and the extended length for a token and a body of the given lengths. -/
def header (token body : Nat) : Bytes :=
  if body ≤ maxInlineLength then
    [headerByte body token]
  else if body < offset16 then
    headerByte 13 token :: bigEndianBytes (body - offset8) 1
  else if body < offset32 then
    headerByte 14 token :: bigEndianBytes (body - offset16) 2
  else
    headerByte 15 token :: bigEndianBytes (body - offset32) 4

/-- The frame of a code, a token and a body.  The token is judged before the body. -/
def encode? (code : UInt8) (token body : Bytes) : Except Oversize Bytes :=
  if maxTokenLength < token.length then
    .error (.token token.length)
  else if maxBodyLength < body.length then
    .error (.body body.length)
  else
    .ok (header token.length body.length ++ code :: (token ++ body))

/-- The frame of a code, a token and a body, or the fault of what does not fit. -/
def encode (code : UInt8) (token body : Bytes) : Except Fault Bytes :=
  (encode? code token body).mapError Oversize.fault

end Frame

end Framewire
