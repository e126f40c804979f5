/-
**Configurations from documents.**

The tables `server` and `client` of a document give the fields of the two records.  What is not
given keeps its default, and what is no field is ignored.  A list may stand in place of such a
table; its elements are the fields in their order.

A number is an integer that is not negative; a float, rounded; a truth value, counted as one or
zero; or a text that writes a number or one of the words for yes and no.  A text is a text, or the
writing of a number or a truth value.

Main definitions:

* `Mismatch` — what was found and what was expected;
* `Decode.natural`, `Decode.portNumber`, `Decode.words` — the values of fields;
* `ConnectorConfig.ofValue` — the configuration of a document.
-/

import Framewire.Config.Basic
import Framewire.Decimal.Shortest
import Framewire.Document.KeyPath
import Framewire.Text.Quoted

set_option autoImplicit false

namespace Framewire

/-- What was found, and what was expected in its place. -/
structure Mismatch where
  found : String
  expected : String
deriving DecidableEq, Repr

namespace Mismatch

/-- The words about a mismatch. -/
def text (m : Mismatch) : String := "invalid type: " ++ m.found ++ ", expected " ++ m.expected

/-- A mismatch under a key. -/
def atKey (m : Mismatch) (key : String) : ConfigFault :=
  .type (m.text ++ " for key `" ++ key ++ "`")

end Mismatch

namespace Decode

/-! ### Values of fields -/

/-- What a value is called that no field can be. -/
def describe : Value → String
  | .null => "unit value"
  | .boolean b => "boolean `" ++ (if b then "true" else "false") ++ "`"
  | .integer i => "integer `" ++ toString i ++ "`"
  | .float x => "floating point `" ++ x.pointedText ++ "`"
  | .text s => "string " ++ Text.quoted s
  | .list _ => "sequence"
  | .table _ => "map"

/-- Texts that mean yes. -/
def yesWords : List String := ["true", "on", "yes"]

/-- Texts that mean no. -/
def noWords : List String := ["false", "off", "no"]

/-- The number that decimal digits write, behind an optional plus sign, if it fits 64 bits. -/
def decimal? (s : String) : Option UInt64 :=
  let digits := match s.toList with
    | '+' :: rest => rest
    | characters => characters
  let value := Reader.numeral 10 digits
  if digits = [] ∨ digits.all (Reader.isDigit 10) = false ∨ UInt64.size ≤ value then none
  else some (UInt64.ofNat value)

/-- A number that is not negative. -/
def natural (v : Value) : Except Mismatch UInt64 :=
  match v with
  | .integer i =>
    if 0 ≤ i then .ok (UInt64.ofNat i.toNat)
    else
      .error ⟨"64-bit integer `" ++ toString i ++ "`", "an unsigned 64 bit or less integer"⟩
  | .float x => .ok (UInt64.ofNat (x.roundToNat (UInt64.size - 1)))
  | .boolean b => .ok (if b then 1 else 0)
  | .text s =>
    if yesWords.contains (lowerKey s) then .ok 1
    else if noWords.contains (lowerKey s) then .ok 0
    else
      match decimal? s with
      | some n => .ok n
      | none => .error ⟨describe v, "an integer"⟩
  | _ => .error ⟨describe v, "an integer"⟩

/-- A number that a port can have. -/
def portNumber (v : Value) : Except Mismatch UInt16 := do
  let n ← natural v
  if 65535 < n then
    .error ⟨"64-bit unsigned integer `" ++ toString n.toNat ++ "`", "an unsigned 16 bit integer"⟩
  else return n.toUInt16

/-- A text, or the writing of a scalar. -/
def words (v : Value) : Except Mismatch String :=
  match v with
  | .text s => .ok s
  | .boolean b => .ok (if b then "true" else "false")
  | .integer i => .ok (toString i)
  | .float x => .ok x.text
  | _ => .error ⟨describe v, "a string"⟩

/-! ### Records -/

/-- The fields that a document gives a record, by name or by position. -/
inductive Fields where
  | named (entries : Entries Value)
  | listed (elements : List Value)

/-- The fields that a value gives a record of the given kind. -/
def fieldsOf (kind : String) : Value → Except ConfigFault Fields
  | .table entries => .ok (.named entries)
  | .list elements => .ok (.listed elements)
  | v => .error (.message (Mismatch.text ⟨describe v, "struct " ++ kind⟩))

/-- A field, with the key that it has in messages. -/
def Fields.get? (part name : String) (position : Nat) : Fields → Option (String × Value)
  | named entries => (entries.lookup? name).map fun v => (part ++ "." ++ name, v)
  | listed elements => elements[position]?.map fun v => (part ++ "[" ++ toString position ++ "]", v)

/-- Reads a field that may be absent. -/
def Fields.read {α : Type} (fields : Fields) (part name : String) (position : Nat)
    (decode : Value → Except Mismatch α) (absent : α) : Except ConfigFault α :=
  match fields.get? part name position with
  | some (key, v) => (decode v).mapError (·.atKey key)
  | none => .ok absent

end Decode

open Decode in
/-- The configuration of a server with the given fields. -/
def ServerConfig.ofFields (fields : Fields) : Except ConfigFault ServerConfig := do
  let c : ServerConfig := {}
  let ip ← fields.read "server" "ip" 0 words c.ip
  let port ← fields.read "server" "port" 1 portNumber c.port
  let idleTimeoutMs ← fields.read "server" "idle_timeout_ms" 2 natural c.idleTimeoutMs
  let workerThreads ← fields.read "server" "worker_threads" 3 natural c.workerThreads
  let sinkChannelCapacity ←
    fields.read "server" "sink_channel_capacity" 4 natural c.sinkChannelCapacity
  let shutdownGraceMs ← fields.read "server" "shutdown_grace_ms" 5 natural c.shutdownGraceMs
  return { ip, port, idleTimeoutMs, workerThreads, sinkChannelCapacity, shutdownGraceMs }

open Decode in
/-- The configuration of a client with the given fields. -/
def ClientConfig.ofFields (fields : Fields) : Except ConfigFault ClientConfig := do
  let c : ClientConfig := {}
  let workerThreads ← fields.read "client" "worker_threads" 0 natural c.workerThreads
  let connectTimeoutMs ← fields.read "client" "connect_timeout_ms" 1 natural c.connectTimeoutMs
  let idleTimeoutMs ← fields.read "client" "idle_timeout_ms" 2 natural c.idleTimeoutMs
  let sinkChannelCapacity ←
    fields.read "client" "sink_channel_capacity" 3 natural c.sinkChannelCapacity
  let shutdownGraceMs ← fields.read "client" "shutdown_grace_ms" 4 natural c.shutdownGraceMs
  return { workerThreads, connectTimeoutMs, idleTimeoutMs, sinkChannelCapacity, shutdownGraceMs }

/-- The configuration of a document whose keys are in lower case. -/
def ConnectorConfig.ofEntries (entries : Entries Value) : Except ConfigFault ConnectorConfig := do
  let server ← match entries.lookup? "server" with
    | some v => Decode.fieldsOf "ServerConfig" v >>= ServerConfig.ofFields
    | none => pure {}
  let client ← match entries.lookup? "client" with
    | some v => Decode.fieldsOf "ClientConfig" v >>= ClientConfig.ofFields
    | none => pure {}
  return { server, client }

/-- The configuration of a document. -/
def ConnectorConfig.ofValue (document : Value) : Except ConfigFault ConnectorConfig :=
  ofEntries document.normalize.entries

end Framewire
